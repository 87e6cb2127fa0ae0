import Cutout.Codec.Webp.Chunk
import Cutout.Codec.Webp.Lossy.Coder

/-!
# Reading decisions

A sequence of decisions is read back from the binary fraction in which it is written: the fraction lies
in the range of the branch that was taken. One zero byte may be missing at the end.
-/

namespace Cutout.Webp.Lossy

/-- A place in a sequence of decisions. -/
structure Decider where
  /-- The digits behind the first two. -/
  bytes : Bytes
  /-- The distance of the fraction from the lower end of the range, to sixteen bits. -/
  distance : Nat
  range : Nat
  /-- The number of bits before the next digit is needed. -/
  room : Nat
  /-- The number of bits that may still be passed over. -/
  left : Nat
  deriving DecidableEq, Repr

namespace Decider

/-- The beginning of a sequence. -/
def ofBytes (b : Bytes) : Decider :=
  ⟨b.drop 2, Bytes.toNatBE [b.getD 0 0, b.getD 1 0], 255, 8, 8 * b.length + 1⟩

/-- Double the range. -/
def double (d : Decider) : Decider :=
  if d.room = 1 then
    match d.bytes with
    | [] => ⟨[], 2 * d.distance, 2 * d.range, 8, d.left - 1⟩
    | x :: b => ⟨b, 2 * d.distance + x.toNat, 2 * d.range, 8, d.left - 1⟩
  else ⟨d.bytes, 2 * d.distance, 2 * d.range, d.room - 1, d.left - 1⟩

/-- Double the range until it has eight bits. -/
def normalise : (fuel : Nat) → Decider → Decider
  | 0, d => d
  | fuel + 1, d => if d.range < 128 then normalise fuel d.double else d

/-- The next decision, where `first` says how likely its first branch is, out of 256. -/
def next (d : Decider) (first : Nat) : Bool × Decider :=
  let split := 1 + (d.range - 1) * first / 256
  if d.distance < 256 * split then (false, normalise 7 { d with range := split })
  else
    (true, normalise 7 { d with distance := d.distance - 256 * split, range := d.range - split })

end Decider

/-- A step of reading decisions. -/
abbrev Deciding := StateT Decider (Except ImageFault)

/-- The sequence ends too early. -/
def cutOff : ImageFault :=
  fault "corrupt bitstream"

/-- A decision whose first branch has a probability. -/
def decision (first : Nat) : Deciding Bool :=
  fun d => if d.left = 0 then .error cutOff else .ok (d.next first)

/-- A decision between two branches that are equally likely. -/
def evenDecision : Deciding Bool :=
  decision 128

/-- The number of some even decisions, after the bits of `acc`. -/
def numberFrom : (bits acc : Nat) → Deciding Nat
  | 0, acc => return acc
  | bits + 1, acc => do
    let b ← evenDecision
    numberFrom bits (2 * acc + b.toNat)

/-- A number of some bits, the highest one first. -/
def readNumber (bits : Nat) : Deciding Nat :=
  numberFrom bits 0

/-- A number of some bits with a sign behind it. -/
def readSigned (bits : Nat) : Deciding Int := do
  let n ← readNumber bits
  return if ← evenDecision then -n else n

/-- What comes behind a decision, if it is taken. -/
def whenTaken {α : Type} (read : Deciding α) : Deciding (Option α) := do
  if ← evenDecision then
    let a ← read
    return some a
  else return none

/-- A list of `n` values. -/
def readList {α : Type} (read : Deciding α) : (n : Nat) → Deciding (List α)
  | 0 => return []
  | n + 1 => do
    let a ← read
    let rest ← readList read n
    return a :: rest

/-- A decision after decision until a leaf is reached. -/
inductive Tree (α : Type) where
  | leaf (a : α)
  /-- The number of the decision, and its two branches. -/
  | node (decision : Nat) (first second : Tree α)

/-- The leaf that decisions lead to, where `odds` says how likely their first branches are. -/
def Tree.read {α : Type} (odds : Nat → Nat) : Tree α → Deciding α
  | .leaf a => return a
  | .node n first second => do
    if ← decision (odds n) then second.read odds else first.read odds

end Cutout.Webp.Lossy
