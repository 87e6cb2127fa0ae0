import Cutout.Startup

/-!
# The command line

The program takes everything from its environment: the place of the settings, the place of the model
and the log filter. Log entries go to standard output, one JSON object a line. There is no cutter in
this build, so that the program ends when it would begin to serve.
-/

open Cutout

namespace Cutout.CommandLine

/-- The bytes of a file, if it can be read. -/
def fileBytes (path : String) : IO (Option Bytes) := do
  try
    return some (← IO.FS.readBinFile path).toList
  catch _ => return none

/-- The surroundings of this program: every address can be listened on, and no cutter loaded. -/
def surroundings : Surroundings :=
  ⟨fun _ => none, Startup.noCutter⟩

/-- A log entry as it is printed. -/
def line (e : LogEntry) : String :=
  Json.object [("level", e.level.label), ("message", e.message), ("target", e.target)]

end Cutout.CommandLine

open Cutout.CommandLine in
/-- Start the program. -/
def main : IO UInt32 := do
  let path := (← IO.getEnv "CONFIG_PATH").getD "config.yaml"
  let launch : Launch :=
    ⟨← fileBytes path, ← IO.getEnv "MODEL_PATH", ← IO.getEnv "RUST_LOG"⟩
  let outcome := Startup.run surroundings launch
  for e in outcome.log do
    IO.println (line e)
  IO.eprint outcome.complaint
  return UInt32.ofNat outcome.exitCode
