import Cutout.Service
import Cutout.Settings

/-!
# Starting the server

The server listens first and loads its cutter then, so that it can say that it is loading. Whatever
goes wrong on the way ends it.
-/

namespace Cutout

namespace Failure

/-- The text of what a failure is about, if it comes from outside. -/
def cause? : Failure → Option String
  | image f => some f.message
  | yaml f => some f.message
  | io d => some d
  | address f => some f.message
  | _ => none

end Failure

/-- What a server needs of its surroundings. -/
structure Surroundings where
  /-- Why an address cannot be listened on, if it cannot. -/
  obstacle : Endpoint → Option String
  /-- Load the cutter of some settings. -/
  load : ModelSettings → Except Failure Cutter

namespace Server

/-- The part of the service that starts it. -/
def part : String := "bg_remove_service::server"

/-- The service that some settings ask for, before its cutter is loaded. -/
def loading (s : Settings) : Service :=
  ⟨.loading s.model.name, s.server.maxBodyBytes⟩

/-- The entry that is logged before the server listens. -/
def starting (e : Endpoint) : LogEntry :=
  ⟨.info, part, "Starting server on " ++ e.text⟩

/-- The entry that is logged when the cutter is in its place. -/
def ready (s : Slot) : LogEntry :=
  ⟨.info, part, "Model " ++ s.model ++ " ready"⟩

/-- What has become of a server: what it logged, and the service if it came up. -/
structure Start where
  log : List LogEntry
  result : Except Failure Service

/-- Load the cutter of a server that listens. -/
def install (w : Surroundings) (s : Settings) : Except Failure Service := do
  let c ← w.load s.model
  let slot ← (loading s).slot.install c
  return { loading s with slot := slot }

/-- Start a server. -/
def start (w : Surroundings) (s : Settings) : Start :=
  match Address.parse s.server.host with
  | .error f => ⟨[], .error (.address f)⟩
  | .ok a =>
    let e : Endpoint := ⟨a, s.server.port⟩
    match w.obstacle e with
    | some detail => ⟨[starting e], .error (.io detail)⟩
    | none =>
      match install w s with
      | .error f => ⟨[starting e], .error f⟩
      | .ok service => ⟨[starting e, ready service.slot], .ok service⟩

end Server

end Cutout
