import Cutout.Image.Fault

/-!
# Reading files from the front

A file is read piece by piece. What follows the pieces read so far is passed along, and the first
piece that cannot be read ends the reading.
-/

namespace Cutout

/-- A step of reading a file from the front. -/
abbrev Reading := StateT Bytes (Except ImageFault)

namespace Reading

/-- End the reading. -/
def fail {α : Type} (f : ImageFault) : Reading α :=
  fun _ => .error f

/-- The next `n` bytes; `short` says what it means that there are fewer. -/
def bytes (short : ImageFault) (n : Nat) : Reading Bytes :=
  fun b =>
    match Bytes.take? n b with
    | some r => .ok r
    | none => .error short

theorem bytes_eq_ok_iff {short : ImageFault} {n : Nat} {b front rest : Bytes} :
    bytes short n b = .ok (front, rest) ↔ Bytes.take? n b = some (front, rest) := by
  unfold bytes
  cases Bytes.take? n b with
  | none => exact ⟨fun h => (nomatch h), fun h => (nomatch h)⟩
  | some r => exact ⟨fun h => congrArg some (Except.ok.inj h), fun h => congrArg Except.ok (Option.some.inj h)⟩

/-- The next byte. -/
def byte (short : ImageFault) : Reading Nat :=
  fun
  | x :: b => .ok (x.toNat, b)
  | [] => .error short

/-- The number of the next `n` bytes, lowest byte first. -/
def little (short : ImageFault) (n : Nat) : Reading Nat := do
  return Bytes.toNatLE (← bytes short n)

/-- The number of the next `n` bytes, highest byte first. -/
def big (short : ImageFault) (n : Nat) : Reading Nat := do
  return Bytes.toNatBE (← bytes short n)

end Reading

end Cutout
