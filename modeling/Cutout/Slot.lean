import Cutout.Cutter

/-!
# The slot for the cutter

The service starts before its cutter is loaded. The slot is empty then; it is filled once, and stays
filled with the same cutter. The name of the model is fixed from the beginning.
-/

namespace Cutout

/-- The place of the cutter. -/
structure Slot where
  model : String
  cutter : Option Cutter

namespace Slot

/-- An empty slot for a model. -/
def loading (model : String) : Slot :=
  ⟨model, none⟩

/-- A slot that is filled from the beginning, and bears the name of its cutter. -/
def ready (c : Cutter) : Except Crash Slot :=
  c.name.map fun name => ⟨name, some c⟩

/-- There is a cutter. -/
def isReady (s : Slot) : Bool :=
  s.cutter.isSome

/-- Fill the slot. -/
def install (s : Slot) (c : Cutter) : Except Failure Slot :=
  match s.cutter with
  | none => .ok { s with cutter := some c }
  | some _ => .error (.alreadyLoaded s.model)

/-- The word for the state of the slot. -/
def status (s : Slot) : String :=
  if s.isReady then "ok" else "loading"

end Slot

end Cutout
