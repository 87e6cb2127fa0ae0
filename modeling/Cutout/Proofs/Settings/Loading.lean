import Cutout.Proofs.Text.Utf8
import Cutout.Settings

/-!
# Settings to start with

The settings of a file are judged by four demands in a fixed order; the first one that is not met is
what is complained about (`Settings.FailsFirst`), and settings that meet them all can be used
(`Settings.IsUsable`). The place of the model that comes from the environment is none of the four, so
that it neither helps nor harms: `load_settles` says what becomes of a file, and that this is a matter of
the file alone up to that place.
-/

namespace Cutout

theorem eq_ok_of_toOption {ε α : Type} {x : Except ε α} {a : α} (h : x.toOption = some a) :
    x = .ok a := by
  cases x with
  | error e => cases h
  | ok b => exact congrArg Except.ok (Option.some.inj h)

namespace Settings

/-! ## Demands -/

/-- The settings meet all demands. -/
structure IsUsable (s : Settings) : Prop where
  port : s.server.port ≠ 0
  bodyLimit : s.server.maxBodyBytes ≠ 0
  modelName : ∃ c ∈ s.model.name.toList, Text.isBlank c = false
  inputSize : s.model.inputSize ≠ 0

/-- The settings have a flaw, and meet the demands that are made before. -/
inductive FailsFirst (s : Settings) : Flaw → Prop
  | port : s.server.port = 0 → FailsFirst s .zeroPort
  | bodyLimit : s.server.port ≠ 0 → s.server.maxBodyBytes = 0 → FailsFirst s .zeroBodyLimit
  | modelName : s.server.port ≠ 0 → s.server.maxBodyBytes ≠ 0 →
      (∀ c ∈ s.model.name.toList, Text.isBlank c = true) → FailsFirst s .blankModelName
  | inputSize : s.server.port ≠ 0 → s.server.maxBodyBytes ≠ 0 →
      (∃ c ∈ s.model.name.toList, Text.isBlank c = false) → s.model.inputSize = 0 →
      FailsFirst s .zeroInputSize

variable {s c : Settings} {f : Failure} {file : Option Bytes} {modelPath : Option String}

theorem IsUsable.flaw?_eq (h : s.IsUsable) : s.flaw? = none := by
  have hblank : Text.isAllBlank s.model.name = false := by
    obtain ⟨c, hc, hnot⟩ := h.modelName
    exact List.all_eq_false.2 ⟨c, hc, by rw [hnot]; exact Bool.false_ne_true⟩
  unfold flaw?
  rw [if_neg h.port, if_neg h.bodyLimit, hblank, if_neg Bool.false_ne_true, if_neg h.inputSize]

theorem FailsFirst.flaw?_eq {flaw : Flaw} (h : s.FailsFirst flaw) : s.flaw? = some flaw := by
  unfold flaw?
  cases h with
  | port hport => rw [if_pos hport]
  | bodyLimit hport hlimit => rw [if_neg hport, if_pos hlimit]
  | modelName hport hlimit hblank =>
    have hall : Text.isAllBlank s.model.name = true := List.all_eq_true.2 hblank
    rw [if_neg hport, if_neg hlimit, if_pos hall]
  | inputSize hport hlimit hname hsize =>
    have hnot : Text.isAllBlank s.model.name = false := by
      obtain ⟨c, hc, hc'⟩ := hname
      exact List.all_eq_false.2 ⟨c, hc, by rw [hc']; exact Bool.false_ne_true⟩
    rw [if_neg hport, if_neg hlimit, hnot, if_neg Bool.false_ne_true, if_pos hsize]

/-- Settings can be used, or one of their flaws is the first. -/
theorem isUsable_or_failsFirst (s : Settings) : s.IsUsable ∨ ∃ flaw, s.FailsFirst flaw := by
  by_cases hport : s.server.port = 0
  · exact .inr ⟨_, .port hport⟩
  by_cases hlimit : s.server.maxBodyBytes = 0
  · exact .inr ⟨_, .bodyLimit hport hlimit⟩
  by_cases hname : ∃ c ∈ s.model.name.toList, Text.isBlank c = false
  · by_cases hsize : s.model.inputSize = 0
    · exact .inr ⟨_, .inputSize hport hlimit hname hsize⟩
    · exact .inl ⟨hport, hlimit, hname, hsize⟩
  · refine .inr ⟨_, .modelName hport hlimit fun c hc => ?_⟩
    by_contra hblank
    exact hname ⟨c, hc, by simpa using hblank⟩

theorem flaw?_eq_none_iff : s.flaw? = none ↔ s.IsUsable := by
  refine ⟨fun h => ?_, IsUsable.flaw?_eq⟩
  rcases isUsable_or_failsFirst s with husable | ⟨flaw, hfails⟩
  · exact husable
  · rw [hfails.flaw?_eq] at h
    cases h

theorem flaw?_eq_some_iff {flaw : Flaw} : s.flaw? = some flaw ↔ s.FailsFirst flaw := by
  refine ⟨fun h => ?_, FailsFirst.flaw?_eq⟩
  rcases isUsable_or_failsFirst s with husable | ⟨other, hfails⟩
  · rw [husable.flaw?_eq] at h
    cases h
  · rw [hfails.flaw?_eq] at h
    cases h
    exact hfails

/-- The place of the model is not looked at. -/
theorem flaw?_withModelPath (s : Settings) (modelPath : Option String) :
    (s.withModelPath modelPath).flaw? = s.flaw? := by
  cases modelPath <;> rfl

theorem withModelPath_eq (s : Settings) (modelPath : Option String) :
    s.withModelPath modelPath =
      { s with model := { s.model with path := modelPath <|> s.model.path } } := by
  cases modelPath <;> rfl

theorem check_eq_ok_iff : s.check = .ok () ↔ s.flaw? = none := by
  unfold check
  cases s.flaw? <;> simp

/-! ## Loading -/

/-- A file that holds a text is read as that text. -/
theorem ofFile_ofText (text : String) : ofFile (some (Bytes.ofText text)) = parse text := by
  simp only [ofFile, Text.ofUtf8?_ofText]

/-- What becomes of the settings of a file hangs on their flaw. -/
theorem load_eq (file : Option Bytes) (modelPath : Option String) :
    load file modelPath = (ofFile file).bind fun c =>
      match c.flaw? with
      | none => .ok (c.withModelPath modelPath)
      | some flaw => .error (.settings flaw.message) := by
  have hload : load file modelPath = (ofFile file).bind fun c =>
      (c.withModelPath modelPath).check.bind fun _ => .ok (c.withModelPath modelPath) := rfl
  rw [hload]
  refine congrArg _ (funext fun c => ?_)
  unfold check
  rw [flaw?_withModelPath]
  cases c.flaw? <;> rfl

theorem load_of_error (h : ofFile file = .error f) : load file modelPath = .error f := by
  rw [load_eq, h]
  rfl

theorem load_of_ok (h : ofFile file = .ok c) :
    load file modelPath =
      match c.flaw? with
      | none => .ok (c.withModelPath modelPath)
      | some flaw => .error (.settings flaw.message) := by
  rw [load_eq, h]
  rfl

/-- Settings without a flaw are loaded from their text. -/
theorem load_of_text {text : String} (h : parse text = .ok c) (hflaw : c.flaw? = none)
    (modelPath : Option String) :
    load (some (Bytes.ofText text)) modelPath = .ok (c.withModelPath modelPath) := by
  rw [load_of_ok ((ofFile_ofText text).trans h), hflaw]

/-- Settings that are loaded are those of the file, and have no flaw. -/
theorem exists_of_load (h : load file modelPath = .ok s) :
    ∃ c, ofFile file = .ok c ∧ c.flaw? = none ∧ s = c.withModelPath modelPath := by
  rw [load_eq] at h
  cases hfile : ofFile file with
  | error f =>
    rw [hfile] at h
    cases h
  | ok c =>
    rw [hfile, Except.bind] at h
    cases hflaw : c.flaw? with
    | none =>
      rw [hflaw] at h
      cases h
      exact ⟨c, rfl, hflaw, rfl⟩
    | some flaw =>
      rw [hflaw] at h
      cases h

/-- A failure has nothing to do with the place of the model. -/
theorem load_error_congr (h : load file modelPath = .error f) (other : Option String) :
    load file other = .error f := by
  cases hfile : ofFile file with
  | error f' =>
    rw [load_of_error hfile] at h ⊢
    exact h
  | ok c =>
    rw [load_of_ok hfile] at h ⊢
    cases hflaw : c.flaw? with
    | none =>
      rw [hflaw] at h
      cases h
    | some flaw =>
      rw [hflaw] at h
      exact h

/-- **What becomes of a file with settings.** If it cannot be read, that is the failure. Otherwise the
settings in it are taken just if they can be used, and are complained about by their first flaw if not;
those that are taken differ from those in the file in the place of the model only, which is the one of
the environment if there is one. They pass the check again, and the environment changes nothing about
what fails and how. -/
theorem load_settles (file : Option Bytes) (modelPath : Option String) :
    (∀ f, ofFile file = .error f → load file modelPath = .error f) ∧
      (∀ c, ofFile file = .ok c →
        ((∃ s, load file modelPath = .ok s) ↔ c.IsUsable) ∧
        (∀ f, load file modelPath = .error f ↔
          ∃ flaw, c.FailsFirst flaw ∧ f = .settings flaw.message) ∧
        ∀ s, load file modelPath = .ok s →
          s = { c with model := { c.model with path := modelPath <|> c.model.path } }) ∧
      (∀ s, load file modelPath = .ok s → s.check = .ok ()) ∧
      ∀ other f, load file modelPath = .error f ↔ load file other = .error f := by
  refine ⟨fun f => load_of_error, ?_, ?_, ?_⟩
  · intro c hfile
    rw [load_of_ok hfile, ← flaw?_eq_none_iff]
    simp only [← flaw?_eq_some_iff]
    cases hflaw : c.flaw? with
    | none =>
      refine ⟨iff_of_true ⟨_, rfl⟩ rfl, fun f => iff_of_false nofun ?_, ?_⟩
      · rintro ⟨flaw, hsome, -⟩
        cases hsome
      · rintro s ⟨⟩
        exact c.withModelPath_eq modelPath
    | some flaw =>
      refine ⟨iff_of_false nofun nofun, fun f => ⟨?_, ?_⟩, nofun⟩
      · rintro ⟨⟩
        exact ⟨flaw, rfl, rfl⟩
      · rintro ⟨other, hother, rfl⟩
        cases hother
        rfl
  · intro s hload
    obtain ⟨c, -, hnone, rfl⟩ := exists_of_load hload
    rw [check_eq_ok_iff, flaw?_withModelPath]
    exact hnone
  · intro other f
    exact ⟨fun h => load_error_congr h other, fun h => load_error_congr h modelPath⟩

/-- A port of zero is complained about whatever the environment says; without it the environment is
followed. -/
theorem load_settles_of_zero_port :
    let zero := some (Bytes.ofText "server:\n  port: 0\n")
    let plain := some (Bytes.ofText "server:\n")
    ofFile zero = .ok { server := { port := 0 } } ∧ ofFile plain = .ok {} ∧
      load zero (some "u2net.onnx") = .error (.settings "server.port must be non-zero") ∧
      load plain (some "u2net.onnx") = .ok { model := { path := some "u2net.onnx" } } := by
  intro zero plain
  have hzero : ofFile zero = .ok { server := { port := 0 } } :=
    (ofFile_ofText _).trans (eq_ok_of_toOption (by decide +kernel))
  have hplain : ofFile plain = .ok {} :=
    (ofFile_ofText _).trans (eq_ok_of_toOption (by decide +kernel))
  obtain ⟨-, hcomplaint, -⟩ := (load_settles zero (some "u2net.onnx")).2.1 _ hzero
  obtain ⟨hload, -, hframe⟩ := (load_settles plain (some "u2net.onnx")).2.1 _ hplain
  obtain ⟨s, hs⟩ := hload.2 (flaw?_eq_none_iff.1 (by decide))
  refine ⟨hzero, hplain, (hcomplaint _).2 ⟨.zeroPort, .port rfl, rfl⟩, ?_⟩
  rw [hs, hframe s hs]
  rfl

end Settings

end Cutout
