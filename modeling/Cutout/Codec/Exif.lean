import Cutout.Bytes
import Cutout.Image.Orientation

/-!
# The orientation note of a camera

Cameras add a directory of numbered notes to a picture. It begins with the byte order of its
numbers and the place of the entries; each entry has a number, a type, a count and a value.
-/

namespace Cutout.Exif

/-- The order of the bytes of a number. -/
inductive ByteOrder where
  | little
  | big
  deriving DecidableEq, Repr

/-- The number that bytes in this order are. -/
def ByteOrder.number (o : ByteOrder) (b : Bytes) : Nat :=
  match o with
  | .little => Bytes.toNatLE b
  | .big => Bytes.toNatBE b

/-- The byte order that the first four bytes announce. -/
def byteOrder? : Bytes → Option ByteOrder
  | [0x49, 0x49, 42, 0] => some .little
  | [0x4D, 0x4D, 0, 42] => some .big
  | _ => none

/-- The number of the note that says how a picture is turned. -/
def orientationNote : Nat := 0x112

/-- The value of the first of `n` entries that is an orientation: one number of sixteen bits. -/
def findOrientation (o : ByteOrder) : (n : Nat) → Bytes → Option Nat
  | 0, _ => none
  | n + 1, b =>
    match Bytes.take? 12 b with
    | none => none
    | some (entry, rest) =>
      if o.number (entry.take 2) = orientationNote && o.number ((entry.drop 2).take 2) = 3 &&
          o.number ((entry.drop 4).take 4) = 1 then
        some (o.number ((entry.drop 8).take 2))
      else findOrientation o n rest

/-- The orientation in a directory of notes, if there is a valid one. -/
def orientation? (b : Bytes) : Option Orientation := do
  let (magic, rest) ← Bytes.take? 4 b
  let o ← byteOrder? magic
  let (place, _) ← Bytes.take? 4 rest
  -- places are counted from the beginning of the directory
  let (count, entries) ← Bytes.take? 2 (b.drop (o.number place))
  let v ← findOrientation o (o.number count) entries
  Orientation.ofTag? v

end Cutout.Exif
