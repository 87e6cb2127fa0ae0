import Cutout.Proofs.Service.Demand
import Mathlib.Data.Nat.Find

/-!
# Which check decides

A request goes through ten stages. `Decides` says when a stage decides and with which answer, for
each stage by itself: a request can give reason to be refused at several stages at once. The answer
of the service is the one of the first stage that decides
(`Service.handle_response_eq_first_decision`), and there is always one.
-/

namespace Cutout

open Http

/-! ## The stages -/

/-- The stages that a request goes through. -/
inductive Stage where
  | length
  | route
  | kind
  | body
  | file
  | fileName
  | container
  | readiness
  | name
  | result
  deriving DecidableEq, Repr

/-- The place of a stage in the order in which they come. -/
def Stage.place : Stage → Nat
  | length => 1
  | route => 2
  | kind => 3
  | body => 4
  | file => 5
  | fileName => 6
  | container => 7
  | readiness => 8
  | name => 9
  | result => 10

/-- The answer that gives a reason. -/
def problem (status : Nat) (reason : String) : Response :=
  .json status (Json.object [("error", reason)])

/-- The answer to the question for the state of the slot. -/
def condition (status : Nat) (word model : String) : Response :=
  .json status (Json.object [("status", word), ("model", model)])

/-- The methods that the two known paths have. -/
def IsOffered (r : Request) : Prop :=
  (r.target.path = Bytes.ofAscii "/health" ∧ (r.method = "GET" ∨ r.method = "HEAD")) ∨
    (r.target.path = Bytes.ofAscii "/remove-bg" ∧ r.method = "POST")

/-- A stage decides about a request, with an answer. No other stage is looked at. -/
inductive Decides [FurtherReaders] (s : Service) (r : Request) : Stage → Response → Prop
  | declared {n : Nat} : Declares r n → s.limit < n →
      Decides s r .length (problem 413 "File too large.")
  | ready : IsOffered r → r.target.path = Bytes.ofAscii "/health" → s.slot.cutter.isSome →
      Decides s r .route (condition 200 "ok" s.slot.model)
  | loading : IsOffered r → r.target.path = Bytes.ofAscii "/health" → s.slot.cutter = none →
      Decides s r .route (condition 503 "loading" s.slot.model)
  | method : ¬ IsOffered r →
      r.target.path = Bytes.ofAscii "/health" ∨ r.target.path = Bytes.ofAscii "/remove-bg" →
      Decides s r .route (.empty 405)
  | path : r.target.path ≠ Bytes.ofAscii "/health" → r.target.path ≠ Bytes.ofAscii "/remove-bg" →
      Decides s r .route (.empty 404)
  | kind : (∀ boundary, ¬ DividesBy r boundary) →
      Decides s r .kind (problem 400 "No file provided. Use field name 'file'.")
  | overrun {boundary : List Char} : DividesBy r boundary →
      Multipart.Overruns (Bytes.ofText (String.ofList boundary)) s.limit r.body →
      Decides s r .body (problem 413 "File too large.")
  | brokenOff {boundary : List Char} : DividesBy r boundary →
      Multipart.BreaksOff (Bytes.ofText (String.ofList boundary)) s.limit r.body →
      Decides s r .body (problem 400 "Malformed upload: failed to read stream")
  | broken {boundary : List Char} {f : Multipart.Fault} : DividesBy r boundary →
      Multipart.Shows (Bytes.ofText (String.ofList boundary)) s.limit r.body f →
      Decides s r .body (problem 400 ("Malformed upload: " ++ f.message))
  | file : (∀ u, ¬ Carries s.limit r (some u)) →
      Decides s r .file (problem 400 "No file provided. Use field name 'file'.")
  | fileName {u : Multipart.Upload} : Carries s.limit r (some u) → u.name = "" →
      Decides s r .fileName (problem 400 "Empty filename.")
  | container {v : String} : HasValue r "format" v → Text.lowercase v ≠ "png" →
      Text.lowercase v ≠ "webp" →
      Decides s r .container (problem 400
        ("Unsupported output format: " ++ Text.lowercase v ++ ". Use png or webp."))
  | readiness : s.slot.cutter = none →
      Decides s r .readiness (problem 503 "Model is still loading.")
  | name {c : Cutter} {crash : Crash} : s.slot.cutter = some c → c.name = .error crash →
      Decides s r .name (problem 500 "Internal server error.")
  | mishap {u : Multipart.Upload} {into : Container} {c : Cutter} {m : Mishap} :
      Carries s.limit r (some u) → AsksFor r into → s.slot.cutter = some c →
      c.process u.content into = .error m →
      Decides s r .result (problem 500 ("Processing failed: " ++ m.message))
  | result {u : Multipart.Upload} {into : Container} {c : Cutter} {image : Bytes} :
      Carries s.limit r (some u) → AsksFor r into → s.slot.cutter = some c →
      c.process u.content into = .ok image →
      Decides s r .result (.file ("image/" ++ into.name) ("result." ++ into.name) image)

/-- A stage that does not decide lets a request pass. -/
def Passes [FurtherReaders] (s : Service) (r : Request) (stage : Stage) : Prop :=
  ∀ a, ¬ Decides s r stage a

/-- The first stage that decides about a request, with its answer. -/
structure DecidesFirst [FurtherReaders] (s : Service) (r : Request) (stage : Stage) (a : Response) :
    Prop where
  decides : Decides s r stage a
  first : ∀ earlier : Stage, earlier.place < stage.place → Passes s r earlier

/-! ## What has passed a stage -/

namespace Service

theorem excess?_eq_some_iff {s : Service} {r : Request} {n : Nat} :
    s.excess? r = some n ↔ Declares r n ∧ s.limit < n := by
  unfold excess?
  rw [Option.filter_eq_some_iff, declaredLength?_eq_some_iff, decide_eq_true_eq]

theorem handle_response [FurtherReaders] (s : Service) (r : Request) :
    (s.handle r).response =
      finish r (if (s.excess? r).isSome then Refusal.tooLarge.response else (s.route r).response) := by
  unfold handle
  cases s.excess? r <;> rfl

end Service

theorem Route.ofPath?_health {path : Bytes} (h : path = Bytes.ofAscii "/health") :
    Route.ofPath? path = some .health := by
  unfold Route.ofPath?
  rw [if_pos h]

theorem Route.ofPath?_removal {path : Bytes} (h : path = Bytes.ofAscii "/remove-bg") :
    Route.ofPath? path = some .removal := by
  unfold Route.ofPath?
  rw [if_neg (by rw [h]; decide), if_pos h]

theorem Route.ofPath?_none {path : Bytes} (hhealth : path ≠ Bytes.ofAscii "/health")
    (hremoval : path ≠ Bytes.ofAscii "/remove-bg") : Route.ofPath? path = none := by
  unfold Route.ofPath?
  rw [if_neg hhealth, if_neg hremoval]

theorem isOffered_iff {r : Request} {route : Route} (h : Route.ofPath? r.target.path = some route) :
    IsOffered r ↔ route.methods.contains r.method = true := by
  have hne : Bytes.ofAscii "/remove-bg" ≠ Bytes.ofAscii "/health" := by decide
  unfold Route.ofPath? at h
  unfold IsOffered
  split at h
  · next hpath =>
    obtain rfl := Option.some.inj h
    simp [hpath, hne.symm, Route.methods]
  · split at h
    · next hpath =>
      obtain rfl := Option.some.inj h
      simp [hpath, hne, Route.methods]
    · exact absurd h (by simp)

namespace Passes

variable [FurtherReaders] {s : Service} {r : Request}

theorem excess (h : Passes s r .length) : s.excess? r = none := by
  cases hexcess : s.excess? r with
  | none => rfl
  | some n =>
    obtain ⟨hn, hlt⟩ := Service.excess?_eq_some_iff.1 hexcess
    exact absurd (.declared hn hlt) (h _)

/-- Only an upload passes the second stage. -/
theorem upload (h : Passes s r .route) :
    r.target.path = Bytes.ofAscii "/remove-bg" ∧ r.method = "POST" := by
  by_cases hoffered : IsOffered r
  · rcases id hoffered with ⟨hpath, -⟩ | hupload
    · cases hc : s.slot.cutter with
      | none => exact absurd (.loading hoffered hpath hc) (h _)
      | some c => exact absurd (.ready hoffered hpath (by rw [hc]; rfl)) (h _)
    · exact hupload
  · by_cases hhealth : r.target.path = Bytes.ofAscii "/health"
    · exact absurd (.method hoffered (.inl hhealth)) (h _)
    by_cases hremoval : r.target.path = Bytes.ofAscii "/remove-bg"
    · exact absurd (.method hoffered (.inr hremoval)) (h _)
    · exact absurd (.path hhealth hremoval) (h _)

/-- A request whose kind and body pass carries something, if only nothing. -/
theorem carries (hkind : Passes s r .kind) (hbody : Passes s r .body) :
    ∃ u, Carries s.limit r u := by
  rcases carries_cases s.limit r with hb | ⟨boundary, hb, ho | hoff | ⟨f, hf⟩⟩ | hu
  · exact absurd (.kind hb) (hkind _)
  · exact absurd (.overrun hb ho) (hbody _)
  · exact absurd (.brokenOff hb hoff) (hbody _)
  · exact absurd (.broken hb hf) (hbody _)
  · exact hu

theorem carries_file (hfile : Passes s r .file) : ∃ u, Carries s.limit r (some u) := by
  by_contra hnone
  exact hfile _ (.file fun u hu => hnone ⟨u, hu⟩)

theorem named {u : Multipart.Upload} (h : Passes s r .fileName) (hu : Carries s.limit r (some u)) :
    u.name ≠ "" :=
  fun hname => h _ (.fileName hu hname)

theorem asksFor (h : Passes s r .container) : ∃ into, AsksFor r into := by
  rcases asksFor_or_unknown r with hinto | ⟨v, hv, hunknown⟩
  · exact hinto
  · exact absurd (.container hv (hunknown .png) (hunknown .webp)) (h _)

theorem cutter (h : Passes s r .readiness) : ∃ c, s.slot.cutter = some c := by
  cases hc : s.slot.cutter with
  | none => exact absurd (.readiness hc) (h _)
  | some c => exact ⟨c, rfl⟩

theorem name_ok {c : Cutter} (h : Passes s r .name) (hc : s.slot.cutter = some c) :
    ∃ n, c.name = .ok n := by
  cases hn : c.name with
  | error crash => exact absurd (.name hc hn) (h _)
  | ok n => exact ⟨n, rfl⟩

end Passes

/-! ## What the service answers behind a stage -/

namespace Order

variable [FurtherReaders]

theorem fill_of_crash {o : Order} {crash : Crash} (h : o.cutter.name = .error crash) :
    o.fill =
      ⟨Refusal.internal.response,
        [⟨.error, Reply.gateway, "Unhandled server error: " ++ crash.message⟩], []⟩ := by
  unfold fill
  rw [h]

theorem fill_of_mishap {o : Order} {n : String} {m : Mishap} (hname : o.cutter.name = .ok n)
    (h : o.cutter.process o.upload.content o.into = .error m) :
    o.fill =
      ⟨(Refusal.failed m.message).response, [o.started, o.failed m],
        [⟨o.cutter, o.upload.content⟩]⟩ := by
  unfold fill
  have hvalue : (o.cutter.deliver o.upload.content o.into).value = .error m := h
  simp only [hname, hvalue]
  rfl

theorem fill_of_image {o : Order} {n : String} {image : Bytes} (hname : o.cutter.name = .ok n)
    (h : o.cutter.process o.upload.content o.into = .ok image) :
    o.fill =
      ⟨.file o.into.mediaType o.into.fileName image, [o.started, o.done],
        [⟨o.cutter, o.upload.content⟩]⟩ := by
  unfold fill
  have hvalue : (o.cutter.deliver o.upload.content o.into).value = .ok image := h
  simp only [hname, hvalue]
  rfl

end Order

namespace Service

variable [FurtherReaders] {s : Service} {r : Request}

/-- The removal answers what is posted on its path. -/
theorem route_removal (hpath : r.target.path = Bytes.ofAscii "/remove-bg")
    (hmethod : r.method = "POST") : s.route r = s.remove r := by
  have hoffered : Route.removal.methods.contains r.method = true := by
    rw [hmethod]
    rfl
  unfold Service.route
  rw [Route.ofPath?_removal hpath]
  simp only [hoffered, if_true]
  rfl

/-- A request that passes the first two stages is answered by the removal. -/
theorem handle_of_passes (hlength : Passes s r .length) (hroute : Passes s r .route) :
    (s.handle r).response = finish r (s.remove r).response := by
  obtain ⟨hpath, hmethod⟩ := hroute.upload
  rw [handle_response, hlength.excess, route_removal hpath hmethod]
  rfl

theorem remove_of_refused {e : Refusal} (h : Order.uploadOf s.limit r = .error e) :
    (s.remove r).response = e.response := by
  unfold remove Order.ofRequest Order.draft
  rw [h]
  rfl

theorem remove_of_unknown {u : Multipart.Upload} {e : Refusal}
    (hu : Order.uploadOf s.limit r = .ok u) (h : Order.containerOf r = .error e) :
    (s.remove r).response = e.response := by
  unfold remove Order.ofRequest Order.draft
  rw [hu]
  simp only [bind, Except.bind, h]
  rfl

theorem remove_of_draft {u : Multipart.Upload} {into : Container}
    (hu : Order.uploadOf s.limit r = .ok u) (hinto : Order.containerOf r = .ok into) :
    s.remove r =
      match s.slot.cutter with
      | none => .refused .loading
      | some c => Order.fill ⟨⟨u, into⟩, c⟩ := by
  unfold remove Order.ofRequest Order.draft
  rw [hu]
  simp only [bind, Except.bind, hinto, pure, Except.pure]
  cases s.slot.cutter <;> rfl

end Service

/-! ## The first stage that decides -/

/-- The result decides at the latest. -/
theorem exists_decides [FurtherReaders] (s : Service) (r : Request) :
    ∃ stage a, Decides s r stage a := by
  by_contra hnone
  have hpass : ∀ stage, Passes s r stage := fun stage a h => hnone ⟨stage, a, h⟩
  obtain ⟨u, hu⟩ := (hpass .file).carries_file
  obtain ⟨into, hinto⟩ := (hpass .container).asksFor
  obtain ⟨c, hc⟩ := (hpass .readiness).cutter
  cases hp : c.process u.content into with
  | error m => exact hnone ⟨_, _, .mishap hu hinto hc hp⟩
  | ok image => exact hnone ⟨_, _, .result hu hinto hc hp⟩

theorem exists_decidesFirst [FurtherReaders] (s : Service) (r : Request) :
    ∃ stage a, DecidesFirst s r stage a := by
  classical
  have hplace : ∃ n, ∃ stage a, Stage.place stage = n ∧ Decides s r stage a := by
    obtain ⟨stage, a, h⟩ := exists_decides s r
    exact ⟨stage.place, stage, a, rfl, h⟩
  obtain ⟨stage, a, hstage, h⟩ := Nat.find_spec hplace
  refine ⟨stage, a, h, ?_⟩
  intro earlier hlt b hb
  rw [hstage] at hlt
  exact Nat.find_min hplace hlt ⟨earlier, b, rfl, hb⟩

namespace DecidesFirst

variable [FurtherReaders] {s : Service} {r : Request}

/-- What the stages in front of the container let pass is an upload with a name. -/
theorem uploadOf_ok {stage : Stage} {a : Response} (h : DecidesFirst s r stage a)
    (hstage : Stage.fileName.place < stage.place) :
    ∃ u, Order.uploadOf s.limit r = .ok u := by
  have hfile : Stage.file.place < stage.place := Nat.lt_trans (by decide) hstage
  obtain ⟨u, hu⟩ := (h.first .file hfile).carries_file
  exact ⟨u, Order.uploadOf_eq_ok_iff.2 ⟨hu, (h.first .fileName hstage).named hu⟩⟩

/-- What the stages in front of the readiness let pass is a draft. -/
theorem draft_ok {stage : Stage} {a : Response} (h : DecidesFirst s r stage a)
    (hstage : Stage.container.place < stage.place) :
    ∃ u into, Order.uploadOf s.limit r = .ok u ∧ Order.containerOf r = .ok into := by
  obtain ⟨u, hu⟩ := h.uploadOf_ok (Nat.lt_trans (by decide) hstage)
  obtain ⟨into, hinto⟩ := (h.first .container hstage).asksFor
  exact ⟨u, into, hu, Order.containerOf_eq_ok_iff.2 hinto⟩

/-- A stage behind the second one decides what the removal answers. -/
theorem remove_eq {stage : Stage} {a : Response} (h : DecidesFirst s r stage a)
    (hstage : Stage.route.place < stage.place) : (s.remove r).response = a := by
  cases h.decides with
  | declared | ready | loading | method | path => exact absurd hstage (by decide)
  | kind hkind => exact Service.remove_of_refused (Order.uploadOf_of_not_dividesBy hkind _)
  | overrun hb hover => exact Service.remove_of_refused (Order.uploadOf_of_overruns hb hover)
  | brokenOff hb hoff => exact Service.remove_of_refused (Order.uploadOf_of_breaksOff hb hoff)
  | broken hb hf => exact Service.remove_of_refused (Order.uploadOf_of_shows hb hf)
  | file hfile =>
    obtain ⟨u, hu⟩ := (h.first .kind (by decide)).carries (h.first .body (by decide))
    cases u with
    | none => exact Service.remove_of_refused (Order.uploadOf_of_carries_none hu)
    | some u => exact absurd hu (hfile u)
  | fileName hu hname =>
    refine Service.remove_of_refused (e := .emptyFileName) ?_
    rw [Order.uploadOf_of_carries_some hu, if_pos hname]
  | @container v hv hpng hwebp =>
    obtain ⟨u, hu⟩ := h.uploadOf_ok (by decide)
    have hunknown : ∀ c : Container, Text.lowercase v ≠ c.name := by
      intro c
      cases c
      · exact hpng
      · exact hwebp
    exact Service.remove_of_unknown hu (Order.containerOf_of_unknown hv hunknown)
  | readiness hslot =>
    obtain ⟨u, into, hu, hinto⟩ := h.draft_ok (by decide)
    rw [Service.remove_of_draft hu hinto, hslot]
    rfl
  | name hslot hname =>
    obtain ⟨u, into, hu, hinto⟩ := h.draft_ok (by decide)
    rw [Service.remove_of_draft hu hinto, hslot]
    exact congrArg Reply.response (Order.fill_of_crash hname)
  | mishap hu hinto hslot hp =>
    have hnamed := (h.first .fileName (by decide)).named hu
    obtain ⟨n, hn⟩ := (h.first .name (by decide)).name_ok hslot
    rw [Service.remove_of_draft (Order.uploadOf_eq_ok_iff.2 ⟨hu, hnamed⟩)
      (Order.containerOf_eq_ok_iff.2 hinto), hslot]
    exact congrArg Reply.response (Order.fill_of_mishap hn hp)
  | result hu hinto hslot hp =>
    have hnamed := (h.first .fileName (by decide)).named hu
    obtain ⟨n, hn⟩ := (h.first .name (by decide)).name_ok hslot
    rw [Service.remove_of_draft (Order.uploadOf_eq_ok_iff.2 ⟨hu, hnamed⟩)
      (Order.containerOf_eq_ok_iff.2 hinto), hslot]
    exact congrArg Reply.response (Order.fill_of_image hn hp)

/-- The second stage decides what its route answers. -/
theorem route_eq {a : Response} (h : DecidesFirst s r .route a) : (s.route r).response = a := by
  cases h.decides with
  | ready hoffered hpath hslot =>
    have hroute := Route.ofPath?_health hpath
    rw [isOffered_iff hroute] at hoffered
    unfold Service.route
    simp only [hroute, hoffered, if_true]
    simp only [Service.serve, Reply.quiet, Service.health, Slot.status, Slot.isReady, hslot, if_true]
    rfl
  | loading hoffered hpath hslot =>
    have hroute := Route.ofPath?_health hpath
    rw [isOffered_iff hroute] at hoffered
    unfold Service.route
    simp only [hroute, hoffered, if_true]
    simp only [Service.serve, Reply.quiet, Service.health, Slot.status, Slot.isReady, hslot]
    rfl
  | method hoffered hpath =>
    obtain ⟨route, hroute⟩ : ∃ route, Route.ofPath? r.target.path = some route := by
      rcases hpath with hpath | hpath
      · exact ⟨_, Route.ofPath?_health hpath⟩
      · exact ⟨_, Route.ofPath?_removal hpath⟩
    rw [isOffered_iff hroute] at hoffered
    unfold Service.route
    simp only [hroute, hoffered]
    rfl
  | path hhealth hremoval =>
    unfold Service.route
    rw [Route.ofPath?_none hhealth hremoval]
    rfl

end DecidesFirst

namespace Service

@[simp] theorem finish_status (r : Request) (a : Response) : (finish r a).status = a.status := by
  unfold finish
  split
  · rfl
  · split
    · rfl
    · split <;> rfl

/-- Only the answer to a question for the headers loses its body. -/
theorem finish_body {r : Request} (h : r.method ≠ "HEAD") (a : Response) :
    (finish r a).body = a.body := by
  unfold finish
  rw [if_neg h]
  split
  · rfl
  · split <;> rfl

/-- **The answer is the one of the first stage that decides**, as its route finishes every answer:
the status is left alone, and so is the body unless only the headers are asked for. There is always
such a stage, and what the stages behind it would say does not matter. -/
theorem handle_response_eq_first_decision [FurtherReaders] (s : Service) (r : Request) :
    (∃ stage a, DecidesFirst s r stage a) ∧
      ∀ stage a, DecidesFirst s r stage a →
        (s.handle r).response = finish r a ∧ (s.handle r).response.status = a.status ∧
          (r.method ≠ "HEAD" → (s.handle r).response.body = a.body) := by
  refine ⟨exists_decidesFirst s r, ?_⟩
  intro stage a h
  have hresponse : (s.handle r).response = finish r a := by
    by_cases hlength : stage = .length
    · subst hlength
      cases h.decides with
      | declared hn hlt =>
        rw [handle_response, excess?_eq_some_iff.2 ⟨hn, hlt⟩]
        rfl
    have hpass : Passes s r .length := h.first .length (by revert hlength; cases stage <;> decide)
    by_cases hroute : stage = .route
    · subst hroute
      rw [handle_response, hpass.excess, ← h.route_eq]
      rfl
    · have hbehind : Stage.route.place < stage.place := by
        revert hlength hroute
        cases stage <;> decide
      rw [handle_of_passes hpass (h.first .route hbehind), h.remove_eq hbehind]
  refine ⟨hresponse, ?_, ?_⟩
  · rw [hresponse, finish_status]
  · intro hmethod
    rw [hresponse, finish_body hmethod]

/-- A request without any header is refused for its kind, whatever the slot and the limit are: that
there is no cutter yet would come later. -/
theorem handle_response_of_headerless :
    let s : Service := ⟨.loading "u2net", 0⟩
    let r : Request := ⟨"POST", ⟨Bytes.ofAscii "/remove-bg", none⟩, [], [.data [1]]⟩
    DecidesFirst s r .kind (problem 400 "No file provided. Use field name 'file'.") ∧
      Decides s r .readiness (problem 503 "Model is still loading.") ∧
      (s.handle r).response.status = 400 := by
  intro s r
  have hkind : Decides s r .kind (problem 400 "No file provided. Use field name 'file'.") := by
    refine .kind fun boundary hb => ?_
    have hnone : boundary? r.headers = none := rfl
    rw [← boundary?_eq_some_iff, hnone] at hb
    cases hb
  have hpath : r.target.path = Bytes.ofAscii "/remove-bg" := rfl
  have hoffered : IsOffered r := .inr ⟨hpath, rfl⟩
  have hfirst : DecidesFirst s r .kind (problem 400 "No file provided. Use field name 'file'.") := by
    refine ⟨hkind, ?_⟩
    intro earlier hlt b hb
    cases hb with
    | declared hn =>
      have hnone : r.declaredLength? = none := rfl
      rw [← declaredLength?_eq_some_iff, hnone] at hn
      cases hn
    | ready _ hhealth | loading _ hhealth => exact absurd (hpath.symm.trans hhealth) (by decide)
    | method hother => exact hother hoffered
    | path _ hremoval => exact hremoval hpath
    | _ => exact absurd hlt (by decide)
  exact ⟨hfirst, .readiness rfl, ((handle_response_eq_first_decision s r).2 _ _ hfirst).2.1⟩

end Service

end Cutout
