import Cutout.Bytes

/-!
# Reading bits

A byte string read bit by bit. Compressed streams take the bits of a byte from the least significant
one on, and numbers from their lowest bit on; scans of the older photographic format take both from
the other end.
-/

namespace Cutout

/-- A byte string of whose first byte `used` bits have been read. -/
structure Bits where
  bytes : Bytes
  used : Nat
  deriving DecidableEq, Repr

namespace Bits

/-- The bits of a byte string. -/
def ofBytes (b : Bytes) : Bits :=
  ⟨b, 0⟩

/-- The byte string after one more bit of its first byte `x`. -/
def advance (x : UInt8) (rest : Bytes) (used : Nat) : Bits :=
  if used = 7 then ⟨rest, 0⟩ else ⟨x :: rest, used + 1⟩

/-- The next bit, from the least significant one on. -/
def low? (b : Bits) : Option (Bool × Bits) :=
  match b.bytes with
  | [] => none
  | x :: rest => some (x.toNat.testBit b.used, advance x rest b.used)

/-- The next bit, from the most significant one on. -/
def high? (b : Bits) : Option (Bool × Bits) :=
  match b.bytes with
  | [] => none
  | x :: rest => some (x.toNat.testBit (7 - b.used), advance x rest b.used)

/-- The number whose `n` bits follow, lowest first. -/
def lowNumber? : (n : Nat) → Bits → Option (Nat × Bits)
  | 0, b => some (0, b)
  | n + 1, b =>
    match b.low? with
    | none => none
    | some (x, b) =>
      match lowNumber? n b with
      | none => none
      | some (r, b) => some (x.toNat + 2 * r, b)

/-- The number whose `n` bits follow, highest first, after the bits of `acc`. -/
def highNumberFrom? : (n acc : Nat) → Bits → Option (Nat × Bits)
  | 0, acc, b => some (acc, b)
  | n + 1, acc, b =>
    match b.high? with
    | none => none
    | some (x, b) => highNumberFrom? n (2 * acc + x.toNat) b

/-- The number whose `n` bits follow, highest first. -/
def highNumber? (n : Nat) (b : Bits) : Option (Nat × Bits) :=
  highNumberFrom? n 0 b

/-- Leave out the rest of a byte that has been begun. -/
def align (b : Bits) : Bytes :=
  if b.used = 0 then b.bytes else b.bytes.drop 1

/-- How many bits are left. -/
def count (b : Bits) : Nat :=
  8 * b.bytes.length - b.used

end Bits

end Cutout
