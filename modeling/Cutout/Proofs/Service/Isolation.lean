import Cutout.Proofs.Service.Run

/-!
# Requests leave each other alone

A `Cutter` answers a file in one way. A `Worker` need not: what it does may depend on everything that
was handled before, so that one request could be felt by a later one. The assumption that it does not
is `Worker.IsSteady`, and it is all that is needed: a request leaves no other trace, since only an
install changes the gate (`Router.run_gate`).

A router with steady workers is a service that is given their cutters (`Router.run_eq`): one step is
settled by the gate and the limit (`Router.step_congr`), and along a run the gate by the installs. So
requests can be put in, left out and moved around between two installs, and nothing else comes of the
others (`Router.run_isolated`). Each request is one step here; that an upload whose steps lie apart is
answered as in one is `Site.answered_eq_remove`.
-/

namespace Cutout

open Http

/-- What is installed as a cutter. It may remember the requests that were handled before. -/
structure Worker where
  now : (past : List Request) → Cutter

/-- What a worker makes of a file, and whether it has a name, does not depend on the past. -/
structure Worker.IsSteady (w : Worker) : Prop where
  name : ∀ past, (w.now past).name = (w.now []).name
  cut : ∀ past file, (w.now past).cut file = (w.now []).cut file

theorem Worker.IsSteady.now_eq {w : Worker} (h : w.IsSteady) (past : List Request) :
    w.now past = w.now [] := by
  have hname := h.name past
  have hcut := funext (h.cut past)
  cases hpast : w.now past with
  | mk name cut =>
    cases hfresh : w.now [] with
    | mk name' cut' =>
      rw [hpast, hfresh] at hname hcut
      rw [Cutter.mk.injEq]
      exact ⟨hname, hcut⟩

/-- What is asked of a router. -/
inductive Call where
  | request (r : Request)
  | install (w : Worker)

/-- What comes of a call. -/
inductive Result where
  | replied (reply : Reply)
  | installed
  | rejected (f : Failure)

/-- The worker that a call installs. -/
def Call.worker? : Call → Option Worker
  | request _ => none
  | install w => some w

/-- The event that a call is for a service, if its worker forgets everything. -/
def Call.event : Call → Event
  | request r => .request r
  | install w => .install (w.now [])

/-- What an outcome looks like from outside. -/
def Outcome.result : Outcome → Result
  | replied _ reply => .replied reply
  | installed _ => .installed
  | rejected _ f => .rejected f

/-- The workers that are to be installed, in order. -/
def installs (calls : List Call) : List Worker :=
  calls.filterMap Call.worker?

/-- What requests share: the name of the model, and the worker once it is there. -/
structure Gate where
  model : String
  worker : Option Worker

/-- A service over time. -/
structure Router where
  gate : Gate
  limit : Nat
  /-- The requests that were handled. -/
  past : List Request

namespace Router

/-- The service as it is now. -/
def service (t : Router) : Service :=
  ⟨⟨t.gate.model, t.gate.worker.map (·.now t.past)⟩, t.limit⟩

/-- One call, and what becomes of the router. -/
def step [FurtherReaders] (t : Router) : Call → Router × Result
  | .request r => ({ t with past := t.past ++ [r] }, .replied (t.service.handle r))
  | .install w =>
    match t.service.slot.install (w.now t.past) with
    | .ok _ => ({ t with gate := { t.gate with worker := some w } }, .installed)
    | .error f => (t, .rejected f)

/-- Calls, one after the other. -/
def run [FurtherReaders] : Router → List Call → Router × List Result
  | t, [] => (t, [])
  | t, c :: calls => (((t.step c).1.run calls).1, (t.step c).2 :: ((t.step c).1.run calls).2)

/-- Every worker is steady, the one in the gate and those to come. -/
def IsSteady (t : Router) (calls : List Call) : Prop :=
  ∀ w, (t.gate.worker = some w ∨ w ∈ installs calls) → w.IsSteady

variable {t t' : Router}

/-! ## One step -/

/-- What a step can be: an answer, or a worker that is accepted by an empty gate and rejected by a full
one. -/
theorem step_cases [FurtherReaders] (t : Router) (c : Call) :
    (∃ r, c = .request r ∧
        t.step c = ({ t with past := t.past ++ [r] }, .replied (t.service.handle r))) ∨
      (∃ w, c = .install w ∧ t.gate.worker = none ∧
        t.step c = ({ t with gate := ⟨t.gate.model, some w⟩ }, .installed)) ∨
      ∃ w v, c = .install w ∧ t.gate.worker = some v ∧
        t.step c = (t, .rejected (.alreadyLoaded t.gate.model)) := by
  cases c with
  | request r => exact .inl ⟨r, rfl, rfl⟩
  | install w =>
    unfold step service Slot.install
    cases hworker : t.gate.worker with
    | none => exact .inr (.inl ⟨w, rfl, rfl, rfl⟩)
    | some v => exact .inr (.inr ⟨w, v, rfl, rfl, rfl⟩)

theorem step_limit [FurtherReaders] (t : Router) (c : Call) : (t.step c).1.limit = t.limit := by
  rcases step_cases t c with ⟨r, -, heq⟩ | ⟨w, -, -, heq⟩ | ⟨w, v, -, -, heq⟩ <;> rw [heq]

/-- **Only an install changes the gate**, and only an empty one. -/
theorem step_gate [FurtherReaders] (t : Router) (c : Call) :
    (t.step c).1.gate = ⟨t.gate.model, t.gate.worker <|> c.worker?⟩ := by
  obtain ⟨⟨model, worker⟩, limit, past⟩ := t
  rcases step_cases ⟨⟨model, worker⟩, limit, past⟩ c with
    ⟨r, rfl, heq⟩ | ⟨w, rfl, hnone, heq⟩ | ⟨w, v, rfl, hsome, heq⟩
  · rw [heq]
    cases worker <;> rfl
  · obtain rfl : worker = none := hnone
    rw [heq]
    rfl
  · obtain rfl : worker = some v := hsome
    rw [heq]
    rfl

/-- The service with a steady worker does not depend on what was handled before. -/
theorem service_eq (h : ∀ w, t.gate.worker = some w → w.IsSteady) :
    t.service = ⟨⟨t.gate.model, t.gate.worker.map (·.now [])⟩, t.limit⟩ := by
  unfold service
  cases hworker : t.gate.worker with
  | none => rfl
  | some w => simp only [Option.map_some, (h w hworker).now_eq t.past]

/-- With steady workers a step is one of the service as it is now. -/
theorem step_eq [FurtherReaders] {c : Call}
    (h : ∀ w, t.gate.worker = some w ∨ c.worker? = some w → w.IsSteady) :
    (t.step c).2 = (t.service.step c.event).2.result ∧
      (t.step c).1.service = (t.service.step c.event).1 := by
  have hworker : ∀ w, t.gate.worker = some w → w.IsSteady := fun w hw => h w (.inl hw)
  cases c with
  | request r =>
    refine ⟨rfl, ?_⟩
    have hafter : ({ t with past := t.past ++ [r] } : Router).service = t.service := by
      rw [service_eq (t := t) hworker]
      exact service_eq hworker
    exact hafter
  | install w =>
    have hfresh : w.now t.past = w.now [] := (h w (.inr rfl)).now_eq t.past
    simp only [step, Service.step, Call.event, hfresh]
    cases hslot : t.service.slot.install (w.now []) with
    | error f => exact ⟨rfl, rfl⟩
    | ok slot =>
      refine ⟨rfl, ?_⟩
      have hnone : t.gate.worker = none := by
        cases hgate : t.gate.worker with
        | none => rfl
        | some v =>
          unfold Slot.install service at hslot
          rw [hgate] at hslot
          cases hslot
      unfold Slot.install at hslot
      simp only [service, hnone, Option.map_none] at hslot
      rw [← Except.ok.inj hslot]
      simp only [service, Option.map_some, hfresh]

/-- **What comes of a call is settled by the gate and the limit.** -/
theorem step_congr [FurtherReaders] {c : Call} (hgate : t.gate = t'.gate)
    (hlimit : t.limit = t'.limit)
    (h : ∀ w, t.gate.worker = some w ∨ c.worker? = some w → w.IsSteady) :
    (t.step c).2 = (t'.step c).2 := by
  have h' : ∀ w, t'.gate.worker = some w ∨ c.worker? = some w → w.IsSteady := by
    rwa [← hgate]
  have hservice : t.service = t'.service := by
    rw [service_eq fun w hw => h w (.inl hw), service_eq fun w hw => h' w (.inl hw), hgate, hlimit]
  rw [(step_eq h).1, (step_eq h').1, hservice]

/-! ## Runs -/

theorem run_limit [FurtherReaders] (t : Router) (calls : List Call) :
    (t.run calls).1.limit = t.limit := by
  induction calls generalizing t with
  | nil => rfl
  | cons c calls ih =>
    rw [run, ih, step_limit]

/-- The gate after a run: the worker that was there, else the first one to be installed. -/
theorem run_gate [FurtherReaders] (t : Router) (calls : List Call) :
    (t.run calls).1.gate = ⟨t.gate.model, t.gate.worker <|> (installs calls).head?⟩ := by
  induction calls generalizing t with
  | nil =>
    obtain ⟨⟨model, worker⟩, limit, past⟩ := t
    cases worker <;> rfl
  | cons c calls ih =>
    rw [run, ih, step_gate]
    cases t.gate.worker <;> cases c <;> rfl

/-- What comes of a call in a run comes of it after the calls before. -/
theorem getElem?_run [FurtherReaders] (t : Router) (before : List Call) (c : Call)
    (after : List Call) :
    (t.run (before ++ c :: after)).2[before.length]? = some ((t.run before).1.step c).2 := by
  induction before generalizing t with
  | nil => rfl
  | cons b before ih =>
    rw [List.cons_append, run, List.length_cons, List.getElem?_cons_succ, ih, run]

/-- The workers that the first call has to do with are steady. -/
theorem IsSteady.head {c : Call} {calls : List Call} (h : t.IsSteady (c :: calls)) :
    ∀ w, t.gate.worker = some w ∨ c.worker? = some w → w.IsSteady := by
  rintro w (hw | hw)
  · exact h w (.inl hw)
  · exact h w (.inr (List.mem_filterMap.2 ⟨c, List.mem_cons_self, hw⟩))

/-- What is steady before a call is steady after it. -/
theorem IsSteady.step [FurtherReaders] {c : Call} {calls : List Call} (h : t.IsSteady (c :: calls)) :
    (t.step c).1.IsSteady calls := by
  rintro w (hw | hw)
  · rw [step_gate] at hw
    refine h.head w ?_
    cases hworker : t.gate.worker with
    | none => exact .inr (by rwa [hworker] at hw)
    | some v => exact .inl (by rwa [hworker] at hw)
  · obtain ⟨d, hd, hdw⟩ := List.mem_filterMap.1 hw
    exact h w (.inr (List.mem_filterMap.2 ⟨d, List.mem_cons_of_mem c hd, hdw⟩))

/-- What is steady before a part of a run is steady after it. -/
theorem IsSteady.run [FurtherReaders] {before after : List Call} (h : t.IsSteady (before ++ after)) :
    (t.run before).1.IsSteady after := by
  induction before generalizing t with
  | nil => exact h
  | cons c before ih => exact ih h.step

/-- **Requests leave each other alone**, whatever becomes of them, if the workers are steady. A request
is answered, logged and cut as by a service with this limit, whose slot holds the worker that was
there or was installed first, in its first state. So two runs with the same installs before a call
make the same of it, whichever requests came in between; and no request changes the gate, which after
a run is settled by the installs in it. -/
theorem run_isolated [FurtherReaders] (t : Router) (calls : List Call) (h : t.IsSteady calls) :
    (∀ before r after, calls = before ++ .request r :: after →
        (t.run calls).2[before.length]? = some (.replied (Service.handle ⟨⟨t.gate.model,
          (t.gate.worker <|> (installs before).head?).map (·.now [])⟩, t.limit⟩ r))) ∧
      (∀ before before' c after after', calls = before ++ c :: after →
        installs before = installs before' →
          (t.run calls).2[before.length]? = (t.run (before' ++ c :: after')).2[before'.length]?) ∧
      (∀ calls', installs calls = installs calls' → (t.run calls).1.gate = (t.run calls').1.gate) ∧
      ∀ r, (t.step (.request r)).1.gate = t.gate := by
  refine ⟨?_, ?_, ?_, fun r => rfl⟩
  · rintro before r after rfl
    have hservice := service_eq fun w hw => h.run w (.inl hw)
    rw [run_gate, run_limit] at hservice
    rw [getElem?_run]
    show some (Result.replied ((t.run before).1.service.handle r)) = _
    rw [hservice]
  · rintro before before' c after after' rfl hinstalls
    rw [getElem?_run, getElem?_run]
    have hgate : (t.run before).1.gate = (t.run before').1.gate := by
      rw [run_gate, run_gate, hinstalls]
    have hlimit : (t.run before).1.limit = (t.run before').1.limit := by
      rw [run_limit, run_limit]
    rw [step_congr hgate hlimit h.run.head]
  · intro calls' hinstalls
    rw [run_gate, run_gate, hinstalls]

/-- An upload is answered the same whether or not there were others: one before the worker was there,
one whose connection failed, one that was declared too long, and one that made the worker crash. -/
theorem run_isolated_among_failures :
    let w : Worker := ⟨fun _ => ⟨.ok "u2net", fun _ => .error (.crash (.saying "boom"))⟩⟩
    let t : Router := ⟨⟨"u2net", none⟩, 1000, []⟩
    let cutOff : Request := oneFile.withBody [.data [45], .failure]
    let long : Request := ⟨"POST", oneFile.target, [⟨"Content-Length", Bytes.ofAscii "1001"⟩], []⟩
    let others : List Call := [.request oneFile, .install w, .request cutOff, .request long,
      .request oneFile, .install w]
    t.IsSteady [.install w, .install w, .request oneFile] ∧
      (t.run [.install w, .install w, .request oneFile]).2[2]? =
        (t.run (others ++ [.request oneFile])).2[6]? ∧
      (t.run [.install w, .install w, .request oneFile]).1.gate = (t.run others).1.gate := by
  intro w t cutOff long others
  have hsteady : t.IsSteady [.install w, .install w, .request oneFile] := by
    rintro v (hv | hv)
    · cases hv
    · obtain rfl : v = w := by simpa [installs, Call.worker?] using hv
      exact ⟨fun _ => rfl, fun _ _ => rfl⟩
  have hisolated := run_isolated t [.install w, .install w, .request oneFile] hsteady
  exact ⟨hsteady, hisolated.2.1 [.install w, .install w] others (.request oneFile) [] [] rfl rfl,
    hisolated.2.2.1 others rfl⟩

end Router

end Cutout
