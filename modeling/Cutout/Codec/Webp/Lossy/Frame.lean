import Cutout.Codec.Webp.Chunk

/-!
# Frames of lossy pictures

The first ten bytes of a lossy picture say that it needs no other picture, how long the part with its
head and its plans is, and its size.
-/

namespace Cutout.Webp.Lossy

/-- The size of a picture, and the length of the part with its head and its plans. -/
structure Frame where
  width : Nat
  height : Nat
  firstLength : Nat
  deriving DecidableEq, Repr

/-- The number of squares in a side. -/
def squares (side : Nat) : Nat :=
  (side + 15) / 16

/-- The bytes in front of the size. -/
def sizeMark : Bytes := [0x9D, 0x01, 0x2A]

/-- A frame written out: a picture that is shown, in the first version of the format. -/
def Frame.bytes (f : Frame) : Bytes :=
  Bytes.ofNatLE 3 (f.firstLength * 32 + 16) ++ sizeMark ++ Bytes.ofNatLE 2 f.width ++
    Bytes.ofNatLE 2 f.height

/-- Read a frame. The picture has to need no other one. -/
def readFrame : Reading Frame := do
  let tag ← Reading.little .truncated 3
  if tag.testBit 0 then Reading.fail (fault "needs another picture")
  else if 3 < tag / 2 % 8 then Reading.fail (fault "version")
  else
    let mark ← Reading.bytes .truncated 3
    if mark ≠ sizeMark then Reading.fail (fault "mark")
    else
      let w ← Reading.little .truncated 2
      let h ← Reading.little .truncated 2
      let (w, h) := (w % 0x4000, h % 0x4000)
      if w = 0 ∨ h = 0 then Reading.fail (fault "size")
      else return ⟨w, h, tag / 32⟩

end Cutout.Webp.Lossy
