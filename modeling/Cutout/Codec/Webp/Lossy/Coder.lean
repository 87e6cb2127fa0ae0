import Cutout.Bytes

/-!
# Writing decisions

A lossy picture is a sequence of decisions between two branches, of which the first has a given
probability. The sequence is written as one long binary fraction: each decision divides the range that
is left in the ratio of its branches, and the fraction lies in the range that remains.
-/

namespace Cutout.Webp.Lossy

/-- A decision: how likely the first branch is, out of 256, and whether the second one is taken. -/
structure Decision where
  first : Nat
  second : Bool
  deriving DecidableEq, Repr

/-- A decision between two branches that are equally likely. -/
def Decision.even (b : Bool) : Decision :=
  ⟨128, b⟩

/-- A number of some bits, the highest one first. -/
def number : (bits n : Nat) → List Decision
  | 0, _ => []
  | bits + 1, n => .even (n.testBit bits) :: number bits n

/-- The state of writing. -/
structure Coder where
  /-- The digits that are complete, latest first. -/
  bytes : List UInt8
  /-- The lower end of the range, as far as it is not in the digits: 32 bits. -/
  bottom : Nat
  range : Nat
  /-- The number of bits that are still to come before the next digit is complete. -/
  room : Nat
  deriving DecidableEq, Repr

namespace Coder

/-- Nothing has been decided. -/
def start : Coder :=
  ⟨[], 0, 255, 24⟩

/-- Add one to the last digit. -/
def carry : List UInt8 → List UInt8
  | [] => []
  | x :: r => if x = 255 then 0 :: carry r else (x + 1) :: r

/-- Double the range. -/
def double (c : Coder) : Coder :=
  let bytes := if c.bottom < 0x80000000 then c.bytes else carry c.bytes
  let bottom := 2 * c.bottom % 0x100000000
  if c.room = 1 then ⟨UInt8.ofNat (bottom / 0x1000000) :: bytes, bottom % 0x1000000, 2 * c.range, 8⟩
  else ⟨bytes, bottom, 2 * c.range, c.room - 1⟩

/-- Double the range until it has eight bits. -/
def normalise : (fuel : Nat) → Coder → Coder
  | 0, c => c
  | fuel + 1, c => if c.range < 128 then normalise fuel c.double else c

/-- Write a decision. -/
def put (c : Coder) (d : Decision) : Coder :=
  let split := 1 + (c.range - 1) * d.first / 256
  let c :=
    if d.second then { c with bottom := c.bottom + split, range := c.range - split }
    else { c with range := split }
  normalise 7 c

/-- Write decisions, and as many more as it takes to complete all digits. -/
def write (ds : List Decision) : Bytes :=
  let ending := List.replicate 40 (Decision.even false)
  (ending.foldl put (ds.foldl put start)).bytes.reverse

end Coder

end Cutout.Webp.Lossy
