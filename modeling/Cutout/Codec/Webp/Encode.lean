import Cutout.Codec.Webp.Chunk
import Cutout.Codec.Webp.Lossy
import Cutout.Failure

/-!
# Writing lossy pictures with opacity

The colours of a picture are written in a lossy chunk. If some pixel is not opaque, the file announces
its parts, and a chunk with the opacity of each pixel, as it is, comes before the colours. Sides have
at most fourteen bits. `outline?` reads back the size and the opacity.

Other writers choose other predictions, and compress the opacity. What counts of a file is its kind, the
size and the opacity that are decoded from it, and which pictures are refused. Its colours are near those
of the picture and no more, and its bytes and its length are a matter of the writer.
-/

namespace Cutout.Webp

/-- The longest side. -/
def longestSide : Nat := 16383

/-- Every pixel is opaque. -/
def isOpaque (r : Raster (Rgba UInt8)) : Bool :=
  r.pixels.all fun p => p.alpha == 255

/-- The opacity of each pixel, behind a byte that says that it is not compressed. -/
def alphaChunk (r : Raster (Rgba UInt8)) : Chunk :=
  ⟨alphaName, 0 :: r.toList.map Rgba.alpha⟩

/-- The parts of a file with opacity, and its size. -/
def extentChunk (w h : Nat) : Chunk :=
  ⟨extendedName, [0x10, 0, 0, 0] ++ Bytes.ofNatLE 3 (w - 1) ++ Bytes.ofNatLE 3 (h - 1)⟩

/-- The chunks of a picture. -/
def chunksOf (r : Raster (Rgba UInt8)) : List Chunk :=
  let colors : Chunk := ⟨lossyName, Lossy.encode r⟩
  if isOpaque r then [colors] else [extentChunk r.width r.height, alphaChunk r, colors]

/-- A picture written out. -/
def encode (r : Raster (Rgba UInt8)) : Except Failure Bytes :=
  if r.width = 0 ∨ r.height = 0 ∨ longestSide < r.width ∨ longestSide < r.height then
    .error (.encoding "WebP encoding failed: VP8_ENC_ERROR_BAD_DIMENSION")
  else .ok (fileOf (chunksOf r))

/-- The size of a file, and the opacity of its pixels if they are not all opaque. -/
structure Outline where
  width : Nat
  height : Nat
  alpha : Option Bytes
  deriving DecidableEq, Repr

/-- Read the size and the opacity of a lossy file. -/
def outline? (b : Bytes) : Option Outline :=
  match content b with
  | .error _ => none
  | .ok (_, rest) =>
    let cs := chunks rest
    match (find? cs lossyName).map Lossy.readFrame with
    | some (.ok (f, _)) =>
      match find? cs alphaName with
      | none => some ⟨f.width, f.height, none⟩
      | some (0 :: alpha) => some ⟨f.width, f.height, some alpha⟩
      | some _ => none
    | _ => none

end Cutout.Webp
