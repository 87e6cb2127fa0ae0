import Cutout.Network.Model
import Cutout.Proofs.Service.Isolation
import Cutout.Proofs.Settings.Loading
import Cutout.Server

/-!
# Two ways to a cutter

A gate can be made with its cutter, or made for the name of a model and given the cutter afterwards. If
the cutter bears that name nobody can tell the two apart: `Router.uses_loading` says so for everything
that is done with a router afterwards, also to its gate.

A server takes the second way. It answers while it loads (`Server.Stage`), and what became of the load
decides all that follows (`Server.after_of_mem`): with a model, whose cutter bears the name from the same
settings, it is the service around a gate made with that cutter; without one it is over.

Main result: `Server.serves_as_ready`.
-/

namespace Cutout

open Http

/-! ## Gates -/

/-- What is done with a router. -/
inductive Use where
  | call (c : Call)
  /-- Look at the gate. -/
  | look

/-- What is seen of a use. -/
inductive Sight where
  | result (r : Result)
  | gate (model status : String) (worker : Option Worker)

namespace Router

/-- A router around a gate that is made with its worker. -/
def ready (w : Worker) (limit : Nat) : Except Crash Router :=
  (Slot.ready (w.now [])).map fun slot => ⟨⟨slot.model, some w⟩, limit, []⟩

/-- A router around a gate that is made for the name of a model. -/
def loading (model : String) (limit : Nat) : Router :=
  ⟨⟨(Slot.loading model).model, none⟩, limit, []⟩

/-- One use, and what becomes of the router. -/
def use [FurtherReaders] (t : Router) : Use → Router × Sight
  | .call c => ((t.step c).1, .result (t.step c).2)
  | .look => (t, .gate t.gate.model t.service.slot.status t.gate.worker)

/-- What is seen of uses, one after the other. -/
def uses [FurtherReaders] : Router → List Use → List Sight
  | _, [] => []
  | t, u :: us => (t.use u).2 :: (t.use u).1.uses us

variable {w : Worker} {name : String}

theorem ready_eq (h : (w.now []).name = .ok name) (limit : Nat) :
    ready w limit = .ok ⟨⟨name, some w⟩, limit, []⟩ := by
  unfold ready Slot.ready
  rw [h]
  rfl

/-- An empty gate takes a worker. -/
theorem use_install_loading [FurtherReaders] (name : String) (limit : Nat) (w : Worker) :
    (loading name limit).use (.call (.install w)) =
      (⟨⟨name, some w⟩, limit, []⟩, .result .installed) :=
  rfl

/-- **A gate that is given its worker is one that was made with it**: the install is accepted, and then
every use shows the same. -/
theorem uses_loading [FurtherReaders] (h : (w.now []).name = .ok name) (limit : Nat) :
    ∃ t, ready w limit = .ok t ∧ ∀ us,
      (loading name limit).uses (.call (.install w) :: us) = .result .installed :: t.uses us := by
  refine ⟨_, ready_eq h limit, fun us => ?_⟩
  rw [uses, use_install_loading]

end Router

/-! ## Servers -/

/-- The surroundings of a server whose cutters are models in files, run by a library. -/
def Surroundings.withModels [FurtherReaders] (backend : Backend)
    (obstacle : Endpoint → Option String) (files : ModelSettings → ModelFile) : Surroundings where
  obstacle := obstacle
  load m := (Model.load m (files m) backend).map Model.cutter

namespace Server

/-- What happens to a server that listens. -/
inductive Turn where
  | request (r : Request)
  /-- The load of the cutter comes to its end. -/
  | loaded

/-- How far a server is that listens. -/
inductive Stage where
  | loading
  | serving (s : Service)
  | ended (f : Failure)

namespace Stage

/-- The service that answers. -/
def service? (settings : Settings) : Stage → Option Service
  | loading => some (Server.loading settings)
  | serving s => some s
  | ended _ => none

/-- The stage that the end of a load leads to. -/
def settled : Except Failure Service → Stage
  | .ok s => serving s
  | .error f => ended f

/-- The stage after a turn. Requests change nothing, and only one load comes to its end. -/
def next (w : Surroundings) (settings : Settings) : Stage → Turn → Stage
  | loading, .loaded => settled (install w settings)
  | stage, _ => stage

end Stage

/-- The stage after some turns. -/
def after (w : Surroundings) (settings : Settings) (turns : List Turn) : Stage :=
  turns.foldl (Stage.next w settings) .loading

/-- What a request leads to after some turns, if the server is still there. -/
def reply? [FurtherReaders] (w : Surroundings) (settings : Settings) (turns : List Turn)
    (r : Request) : Option Reply :=
  ((after w settings turns).service? settings).map fun s => s.handle r

/-! ## The course of a server -/

variable {w : Surroundings} {settings : Settings} {turns : List Turn}

/-- A stage that is not the first one is the last one. -/
theorem foldl_next_settled (result : Except Failure Service) (turns : List Turn) :
    turns.foldl (Stage.next w settings) (Stage.settled result) = Stage.settled result := by
  induction turns with
  | nil => rfl
  | cons t turns ih =>
    rw [List.foldl_cons]
    have hnext : Stage.next w settings (Stage.settled result) t = Stage.settled result := by
      cases result <;> rfl
    rw [hnext, ih]

theorem after_of_notMem (h : Turn.loaded ∉ turns) : after w settings turns = .loading := by
  unfold after
  induction turns with
  | nil => rfl
  | cons t turns ih =>
    cases t with
    | request r => exact ih fun hmem => h (List.mem_cons_of_mem _ hmem)
    | loaded => exact absurd List.mem_cons_self h

/-- **After the load its outcome decides**, whatever was asked before it and after it. -/
theorem after_of_mem (h : Turn.loaded ∈ turns) :
    after w settings turns = .settled (install w settings) := by
  unfold after
  induction turns with
  | nil => cases h
  | cons t turns ih =>
    cases t with
    | request r =>
      rcases List.mem_cons.1 h with heq | hmem
      · cases heq
      · exact ih hmem
    | loaded => exact foldl_next_settled (install w settings) turns

/-- A server that can listen ends as its load does. -/
theorem start_result {a : Address} (haddress : Address.parse settings.server.host = .ok a)
    (hobstacle : w.obstacle ⟨a, settings.server.port⟩ = none) :
    (start w settings).result = install w settings := by
  unfold start
  simp only [haddress, hobstacle]
  cases install w settings <;> rfl

/-- While there is no cutter, an upload that passes the checks is put off. -/
theorem handle_loading [FurtherReaders] {r : Request} {d : Draft}
    (hthrough : GoesThrough (loading settings) r)
    (hdraft : Order.draft settings.server.maxBodyBytes r = .ok d) :
    (loading settings).handle r = ⟨problem 503 "Model is still loading.", [], []⟩ := by
  rw [Service.handle_of_goesThrough hthrough]
  have horder : Order.ofRequest (loading settings).slot (loading settings).limit r =
      .error .loading := by
    unfold Order.ofRequest
    show (Order.draft settings.server.maxBodyBytes r).bind _ = _
    rw [hdraft]
    rfl
  unfold Service.remove
  rw [horder]
  rfl

/-! ## Models -/

variable {backend : Backend} {obstacle : Endpoint → Option String}
  {files : ModelSettings → ModelFile} {m : Model}

/-- A model bears the name in its settings. -/
theorem name_of_load {s : ModelSettings} {file : ModelFile} (h : Model.load s file backend = .ok m) :
    m.name = s.name := by
  unfold Model.load at h
  split at h
  · cases h
  · cases hprepare : backend.prepare s.threads with
    | error f => simp [hprepare, bind, Except.bind] at h
    | ok u =>
      simp only [hprepare, bind, Except.bind] at h
      split at h
      · cases h
        rfl
      · cases h

theorem install_of_load [FurtherReaders]
    (h : Model.load settings.model (files settings.model) backend = .ok m) :
    install (.withModels backend obstacle files) settings =
      .ok ⟨⟨settings.model.name, some m.cutter⟩, settings.server.maxBodyBytes⟩ := by
  unfold install Surroundings.withModels
  dsimp only
  rw [h]
  rfl

theorem install_of_load_error [FurtherReaders] {f : Failure}
    (h : Model.load settings.model (files settings.model) backend = .error f) :
    install (.withModels backend obstacle files) settings = .error f := by
  unfold install Surroundings.withModels
  dsimp only
  rw [h]
  rfl

/-- The cutter of a loaded model makes a gate with the name in the settings. -/
theorem ready_of_load [FurtherReaders]
    (h : Model.load settings.model (files settings.model) backend = .ok m) :
    Slot.ready m.cutter = .ok ⟨settings.model.name, some m.cutter⟩ := by
  unfold Slot.ready Model.cutter
  rw [name_of_load h]
  rfl

/-- **The two ways to a cutter are the same.** A gate that is given a worker which bears its name is one
that was made with it, whatever is done with it afterwards. And a server that can listen puts off every
upload that passes the checks until its load comes to an end. If that gave a model, it answers from then
on as a service around a gate that was made with the cutter of that model, with the limit and the name
in the settings; if the load failed, there never was a cutter, the server is over, and this is what it
ends with. -/
theorem serves_as_ready [FurtherReaders] :
    (∀ (w : Worker) (name : String) (limit : Nat), (w.now []).name = .ok name →
      ∃ t, Router.ready w limit = .ok t ∧ ∀ us,
        (Router.loading name limit).uses (.call (.install w) :: us) =
          .result .installed :: t.uses us) ∧
      ∀ (backend : Backend) (obstacle : Endpoint → Option String)
        (files : ModelSettings → ModelFile) (settings : Settings) (a : Address) (turns : List Turn),
        Address.parse settings.server.host = .ok a →
        obstacle ⟨a, settings.server.port⟩ = none →
        (Turn.loaded ∉ turns → ∀ r,
          reply? (.withModels backend obstacle files) settings turns r =
              some ((loading settings).handle r) ∧
            ∀ d, GoesThrough (loading settings) r →
              Order.draft settings.server.maxBodyBytes r = .ok d →
              (loading settings).handle r = ⟨problem 503 "Model is still loading.", [], []⟩) ∧
        (∀ m, Model.load settings.model (files settings.model) backend = .ok m →
          ∃ slot, Slot.ready m.cutter = .ok slot ∧ slot.model = settings.model.name ∧
            (start (.withModels backend obstacle files) settings).result =
              .ok ⟨slot, settings.server.maxBodyBytes⟩ ∧
            (Turn.loaded ∈ turns → ∀ r,
              reply? (.withModels backend obstacle files) settings turns r =
                some (Service.handle ⟨slot, settings.server.maxBodyBytes⟩ r))) ∧
        ∀ f, Model.load settings.model (files settings.model) backend = .error f →
          (start (.withModels backend obstacle files) settings).result = .error f ∧
            (∀ s, (after (.withModels backend obstacle files) settings turns).service? settings = some s →
              s.slot.cutter = none) ∧
            (Turn.loaded ∈ turns → after (.withModels backend obstacle files) settings turns = .ended f) := by
  refine ⟨fun w name limit h => Router.uses_loading h limit, ?_⟩
  intro backend obstacle files settings a turns haddress hobstacle
  refine ⟨fun hnot r => ⟨?_, fun d => handle_loading⟩, fun m hload => ?_, fun f hload => ?_⟩
  · unfold reply?
    rw [after_of_notMem hnot]
    rfl
  · refine ⟨_, ready_of_load hload, rfl, ?_, fun hmem r => ?_⟩
    · rw [start_result haddress hobstacle, install_of_load hload]
    · unfold reply?
      rw [after_of_mem hmem, install_of_load hload]
      rfl
  · have hinstall : install (.withModels backend obstacle files) settings = .error f :=
      install_of_load_error hload
    refine ⟨?_, fun s hs => ?_, fun hmem => ?_⟩
    · rw [start_result haddress hobstacle, hinstall]
    · by_cases hmem : Turn.loaded ∈ turns
      · rw [after_of_mem hmem, hinstall] at hs
        cases hs
      · rw [after_of_notMem hmem] at hs
        cases hs
        rfl
    · rw [after_of_mem hmem, hinstall]
      rfl

/-- An upload comes before a model with four threads is loaded, and another one afterwards; a server
that finds no model is over. -/
theorem serves_as_ready_with_model :
    let settings : Settings :=
      { server := { maxBodyBytes := 1000 }, model := { path := some "u2net.onnx", threads := some 4 } }
    let m : Model := ⟨"silueta", 320, true, .ofLayer 320 .identity⟩
    let backend : Backend :=
      { threads := fun _ => .ok (), complaint := fun _ _ => some "no such file" }
    let w := Surroundings.withModels backend (fun _ => none) fun _ => .network m.network
    let bare := Surroundings.withModels backend (fun _ => none) fun _ => .missing
    reply? w settings [] oneFile = some ⟨problem 503 "Model is still loading.", [], []⟩ ∧
      reply? w settings [.request oneFile, .loaded] oneFile =
        some (Service.handle ⟨⟨"silueta", some m.cutter⟩, 1000⟩ oneFile) ∧
      (start bare settings).result =
        .error (.inference "Failed to load model u2net.onnx: no such file") ∧
      (Router.loading "silueta" 1000).uses
          [.call (.install ⟨fun _ => m.cutter⟩), .look, .call (.request oneFile)] =
        .result .installed ::
          Router.uses ⟨⟨"silueta", some ⟨fun _ => m.cutter⟩⟩, 1000, []⟩
            [.look, .call (.request oneFile)] := by
  intro settings m backend w bare
  have haddress : Address.parse settings.server.host = .ok (.v4 0 0 0 0) :=
    eq_ok_of_toOption (by decide +kernel)
  have hload : Model.load settings.model (.network m.network) backend = .ok m := rfl
  obtain ⟨hgate, hserver⟩ := serves_as_ready
  obtain ⟨hbefore, -, -⟩ := hserver backend (fun _ => none) (fun _ => .network m.network) settings _
    [] haddress rfl
  obtain ⟨-, hafter, -⟩ := hserver backend (fun _ => none) (fun _ => .network m.network) settings _
    [.request oneFile, .loaded] haddress rfl
  obtain ⟨-, -, hmissing⟩ := hserver backend (fun _ => none) (fun _ => .missing) settings _ []
    haddress rfl
  have hbare : Model.load settings.model .missing backend =
      .error (.inference "Failed to load model u2net.onnx: no such file") := by
    have htext : "Failed to load model" ++ (" " ++ "u2net.onnx") ++ ": " ++ "no such file" =
        "Failed to load model u2net.onnx: no such file" := by decide
    rw [← htext]
    rfl
  obtain ⟨slot, hslot, -, -, hreply⟩ := hafter m hload
  obtain ⟨heq, hput⟩ := hbefore (by simp) oneFile
  obtain rfl : slot = ⟨"silueta", some m.cutter⟩ := (Except.ok.inj hslot).symm
  obtain ⟨t, ht, huses⟩ := hgate ⟨fun _ => m.cutter⟩ "silueta" 1000 rfl
  obtain rfl := Except.ok.inj ht
  refine ⟨?_, hreply (by simp) oneFile, (hmissing _ hbare).1, huses _⟩
  rw [heq, hput _ ⟨rfl, rfl, rfl⟩ draft_oneFile]

end Server

end Cutout
