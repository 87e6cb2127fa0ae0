import Cutout.Bytes
import Cutout.Failure
import Cutout.Text.Blank
import Cutout.Text.Utf8
import Cutout.Yaml.Record

/-!
# Settings

What the service can be told: where it listens, how much it accepts, what it logs, and which model
it uses. Everything has a default. Settings are read from a YAML text; one of them, the place of the
model, can also come from the environment.
-/

namespace Cutout

/-- What is logged. -/
structure LogSettings where
  level : String := "info"
  deriving DecidableEq, Repr

/-- Where the service listens and what it accepts. -/
structure ServerSettings where
  host : String := "0.0.0.0"
  port : Nat := 5000
  /-- Longer requests are refused. -/
  maxBodyBytes : Nat := 52428800
  logs : LogSettings := {}
  deriving DecidableEq, Repr

/-- The model, and how its answers are used. -/
structure ModelSettings where
  /-- The name that the health check reports. -/
  name : String := "silueta"
  path : Option String := none
  /-- Side of the square that the model looks at. -/
  inputSize : Nat := 320
  /-- Mattes are cleaned. -/
  cleanMatte : Bool := true
  threads : Option Nat := none
  deriving DecidableEq, Repr

/-- All settings. -/
structure Settings where
  server : ServerSettings := {}
  model : ModelSettings := {}
  deriving DecidableEq, Repr

/-! ## Reading -/

open Yaml in
/-- How the settings of the log are read. -/
def LogSettings.record : Record LogSettings where
  name := "struct LogsConfig"
  blank := {}
  members := [.of "level" (Reader.text "a string") fun v s => { s with level := v }]

open Yaml in
/-- How the settings of the server are read. -/
def ServerSettings.record : Record ServerSettings where
  name := "struct ServerConfig"
  blank := {}
  members :=
    [.of "host" (Reader.text "a string") fun v s => { s with host := v },
     .of "port" (Reader.natural 16 "u16") fun v s => { s with port := v },
     .of "max_body_bytes" (Reader.natural 64 "usize") fun v s => { s with maxBodyBytes := v },
     .of "logs" LogSettings.record.read fun v s => { s with logs := v }]

open Yaml in
/-- How the settings of the model are read. -/
def ModelSettings.record : Record ModelSettings where
  name := "struct ModelConfig"
  blank := {}
  members :=
    [.of "name" (Reader.text "a string") fun v s => { s with name := v },
     .of "path" (Reader.text "path string").optional fun v s => { s with path := v },
     .of "input_size" (Reader.natural 32 "u32") fun v s => { s with inputSize := v },
     .of "post_process_mask" Reader.boolean fun v s => { s with cleanMatte := v },
     .of "intra_threads" (Reader.natural 64 "usize").optional fun v s => { s with threads := v }]

open Yaml in
/-- How all settings are read. -/
def Settings.record : Record Settings where
  name := "struct Config"
  blank := {}
  members :=
    [.of "server" ServerSettings.record.read fun v s => { s with server := v },
     .of "model" ModelSettings.record.read fun v s => { s with model := v }]

namespace Settings

/-- The settings that a text gives. A text of white space gives the defaults. -/
def parse (text : String) : Except Failure Settings :=
  if Text.isAllBlank text then .ok {}
  else
    match record.ofText text with
    | .ok s => .ok s
    | .error f => .error (.yaml f)

/-- The settings in a file, which may be missing. -/
def ofFile : Option Bytes → Except Failure Settings
  | none => .error (.io "No such file or directory (os error 2)")
  | some b =>
    match Text.ofUtf8? b with
    | none => .error (.io "stream did not contain valid UTF-8")
    | some text => parse text

/-! ## Checking -/

/-- A setting that cannot be used. -/
inductive Flaw where
  | zeroPort
  | zeroBodyLimit
  | blankModelName
  | zeroInputSize
  deriving DecidableEq, Repr

/-- The text for a flaw. -/
def Flaw.message : Flaw → String
  | zeroPort => "server.port must be non-zero"
  | zeroBodyLimit => "server.max_body_bytes must be non-zero"
  | blankModelName => "model.name must not be empty"
  | zeroInputSize => "model.input_size must be non-zero"

/-- The first flaw of the settings. -/
def flaw? (s : Settings) : Option Flaw :=
  if s.server.port = 0 then some .zeroPort
  else if s.server.maxBodyBytes = 0 then some .zeroBodyLimit
  else if Text.isAllBlank s.model.name then some .blankModelName
  else if s.model.inputSize = 0 then some .zeroInputSize
  else none

/-- Refuse settings with a flaw. -/
def check (s : Settings) : Except Failure Unit :=
  match s.flaw? with
  | some f => .error (.settings f.message)
  | none => .ok ()

/-- The settings with another place of the model, if one is given. -/
def withModelPath (s : Settings) : Option String → Settings
  | none => s
  | some p => { s with model := { s.model with path := some p } }

/-- The settings to start with: those in a file, with the place of the model from the environment,
if they have no flaw. -/
def load (file : Option Bytes) (modelPath : Option String) : Except Failure Settings := do
  let s ← ofFile file
  let s := s.withModelPath modelPath
  s.check
  return s

end Settings

end Cutout
