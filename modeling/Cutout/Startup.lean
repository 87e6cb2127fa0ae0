import Cutout.Log.Filter
import Cutout.Server

/-!
# Starting the program

The program reads its settings, finds out what it is to log, and starts the server. The first thing
that goes wrong ends it. What is to be logged comes from the environment, or else from the settings;
those name a threshold only, which is judged as such before it is read as a filter.
-/

namespace Cutout

/-- What the program finds when it is started. -/
structure Launch where
  /-- The file with the settings, if there is one. -/
  settingsFile : Option Bytes
  /-- The place of the model, from the environment. -/
  modelPath : Option String
  /-- The log filter, from the environment. -/
  logFilter : Option String

namespace Startup

/-- Why the program ends. -/
inductive Fault where
  | settings (f : Failure)
  | logLevel (level : String)
  | logFilter (filter : String) (f : FilterFault)
  | server (f : Failure)
  deriving DecidableEq, Repr

/-- The text for a fault. -/
def Fault.message : Fault → String
  | settings f => "Failed to load configuration: " ++ f.message ++ "\n"
  | logLevel l =>
    "Invalid log level: '" ++ l ++ "'. Valid levels: error, warn, info, debug, trace\n"
  | logFilter text f => "Invalid log filter '" ++ text ++ "': " ++ f.message ++ "\n"
  | server f =>
    "Error: " ++ f.message ++ "\n" ++
      match f.cause? with
      | none => ""
      | some c => "\nCaused by:\n    " ++ c ++ "\n"

/-- The part of the program that starts everything. -/
def part : String := "bg_remove_service"

/-- The text of the log filter: that of the environment, or else a threshold from the settings. -/
def filterText (l : Launch) (s : Settings) : Except Fault String :=
  match l.logFilter with
  | some text => .ok text
  | none =>
    let level := s.server.logs.level
    match Threshold.parse? level with
    | some _ => .ok level
    | none => .error (.logLevel level)

/-- What the program knows when it begins to log. -/
structure Ready where
  settings : Settings
  filterText : String
  filter : Filter

/-- How log filters are read. -/
abbrev FilterReader := String → Except FilterFault Filter

/-- Read the settings and the log filter. -/
def prepare (l : Launch) (read : FilterReader := fun text => Filter.parse text) :
    Except Fault Ready := do
  let s ← (Settings.load l.settingsFile l.modelPath).mapError .settings
  let text ← filterText l s
  let filter ← (read text).mapError (.logFilter text)
  return ⟨s, text, filter⟩

/-- The first entry that is logged. -/
def greeting (r : Ready) : LogEntry :=
  ⟨.info, part, "Starting background removal service (model: " ++ r.settings.model.name ++
    ", log filter: " ++ r.filterText ++ ")"⟩

/-- What has become of the program: what it logged, and the service or the reason to end. -/
structure Outcome where
  log : List LogEntry
  result : Except Fault Service

/-- Start the program. -/
def run (w : Surroundings) (l : Launch) (read : FilterReader := fun text => Filter.parse text) :
    Outcome :=
  match prepare l read with
  | .error f => ⟨[], .error f⟩
  | .ok r =>
    let s := Server.start w r.settings
    ⟨(greeting r :: s.log).filter r.filter.allows, s.result.mapError .server⟩

/-- The code that the program ends with. -/
def Outcome.exitCode (o : Outcome) : Nat :=
  match o.result with
  | .ok _ => 0
  | .error _ => 1

/-- The text that the program ends with. -/
def Outcome.complaint (o : Outcome) : String :=
  match o.result with
  | .ok _ => ""
  | .error f => f.message

/-- There is no way to load a cutter. -/
def noCutter (_ : ModelSettings) : Except Failure Cutter :=
  .error (.settings "no segmenter backend compiled in; rebuild with the `onnx` feature")

end Startup

end Cutout
