import Cutout.Codec.Webp.Transform

/-!
# Lossless pictures

A lossless picture begins with its size and whether it has opacity; then come the transforms and the
pixels.
-/

namespace Cutout.Webp

/-- The size of a lossless picture, and whether it has opacity. -/
structure LosslessHead where
  width : Nat
  height : Nat
  hasAlpha : Bool
  deriving DecidableEq, Repr

/-- The first byte. -/
def losslessMark : Nat := 0x2F

/-- Read the head of a lossless picture. -/
def readLosslessHead : BitReading LosslessHead := do
  let mark ← bits 8
  if mark ≠ losslessMark then broken
  else
    let w ← bits 14
    let h ← bits 14
    let alpha ← flag
    let version ← bits 3
    if version ≠ 0 then broken else return ⟨w + 1, h + 1, alpha⟩

/-- Read the transforms and the pixels of a picture of a given size. -/
def readBody (w h : Nat) : BitReading (Raster Pixel) := do
  let (ts, packed) ← readTransforms h 5 [] w []
  let r ← readMain packed h
  return ts.foldl (fun r t => t.undo r) r

/-- Read a lossless picture. -/
def readLossless : BitReading (Raster Pixel) := do
  let head ← readLosslessHead
  readBody head.width head.height

/-- The pixels of a lossless picture of a given size. -/
def lossless (w h : Nat) (data : Bytes) : Except ImageFault (Raster Pixel) := do
  let (r, _) ← readLossless (Bits.ofBytes data)
  if r.width = w ∧ r.height = h then return r else .error (fault "inconsistent image sizes")

end Cutout.Webp
