import Cutout.Codec.PrefixCode
import Cutout.Codec.Webp.Chunk

/-!
# Codes of lossless pictures

Every sample is a symbol in a prefix code that stands in front of the samples. A code with a single
symbol takes no bits.
-/

namespace Cutout.Webp

/-- A step of reading bits. -/
abbrev BitReading := StateT Bits (Except ImageFault)

/-- The bits are not those of a picture. -/
def broken {α : Type} : BitReading α :=
  fun _ => .error (fault "bit stream")

/-- The number of the next `n` bits. -/
def bits (n : Nat) : BitReading Nat :=
  fun b =>
    match b.lowNumber? n with
    | some r => .ok r
    | none => .error (fault "bit stream")

/-- The next bit. -/
def flag : BitReading Bool := do
  return (← bits 1) = 1

/-- A code for symbols. -/
inductive Code where
  | single (symbol : Nat)
  | words (c : PrefixCode)
  deriving DecidableEq, Repr

/-- Read a symbol. -/
def Code.read : Code → BitReading Nat
  | .single s => return s
  | .words c => fun b =>
    match c.read Bits.low? b with
    | .ok r => .ok r
    | .error _ => .error (fault "bit stream")

/-- The longest word. -/
def longestWord : Nat := 15

/-- The code whose words have the given lengths. -/
def Code.ofLengths (lengths : List Nat) : BitReading Code :=
  match lengths.zipIdx.filter fun p => p.1 != 0 with
  | [] => broken
  | [(_, s)] => return .single s
  | _ =>
    let c := PrefixCode.ofLengths longestWord lengths
    if c.isComplete then return .words c else broken

/-- A code of one or two symbols, the word of the first one being zero. -/
def readShortCode : BitReading Code := do
  let two ← flag
  let long ← flag
  let first ← bits (if long then 8 else 1)
  if two then
    let second ← bits 8
    return .words ⟨[2], #[first, second]⟩
  else return .single first

/-- The order in which the lengths of the code for lengths are given. -/
def lengthOrder : List Nat :=
  [17, 18, 0, 1, 2, 3, 4, 5, 16, 6, 7, 8, 9, 10, 11, 12, 13, 14, 15]

/-- Numbers of `size` bits each. -/
def readNumbers (size : Nat) : (n : Nat) → BitReading (List Nat)
  | 0 => return []
  | n + 1 => do
    let x ← bits size
    let rest ← readNumbers size n
    return x :: rest

/-- Code lengths, with runs written short: `reversed` holds those read so far, latest first, `room`
more are to come, at most `limit` symbols are read, and `previous` is the last length that was not
zero. -/
def readLengths (c : Code) :
    (limit room : Nat) → (previous : Nat) → (reversed : List Nat) → BitReading (List Nat)
  | 0, room, _, reversed => return reversed.reverse ++ List.replicate room 0
  | limit + 1, room, previous, reversed => do
    if room = 0 then return reversed.reverse
    else
      let x ← c.read
      if x < 16 then
        readLengths c limit (room - 1) (if x = 0 then previous else x) (x :: reversed)
      else
        let (size, least) := if x = 16 then (2, 3) else if x = 17 then (3, 3) else (7, 11)
        let more ← bits size
        let n := least + more
        if room < n then broken
        else
          let value := if x = 16 then previous else 0
          readLengths c limit (room - n) previous (List.replicate n value ++ reversed)

/-- A code of any number of symbols below `alphabet`. -/
def readLongCode (alphabet : Nat) : BitReading Code := do
  let n ← bits 4
  let short ← readNumbers 3 (n + 4)
  let pairs := lengthOrder.zip short
  let c ← Code.ofLengths ((List.range 19).map fun i =>
    ((pairs.find? fun p => p.1 == i).map (·.2)).getD 0)
  let limit ←
    if ← flag then
      let size ← bits 3
      let m ← bits (2 + 2 * size)
      if alphabet < m + 2 then broken else pure (m + 2)
    else pure alphabet
  let lengths ← readLengths c limit alphabet 8 []
  Code.ofLengths lengths

/-- The code of an alphabet. -/
def readCode (alphabet : Nat) : BitReading Code := do
  if ← flag then readShortCode else readLongCode alphabet

end Cutout.Webp
