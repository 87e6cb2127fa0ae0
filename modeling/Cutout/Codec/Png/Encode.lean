import Cutout.Codec.Deflate
import Cutout.Codec.Png.Header
import Cutout.Image.Picture

/-!
# Writing pictures

A picture in colour with opacity at eight bits, unfiltered and uncompressed. The stream of the pixels is
divided among chunks whose length can be written. A picture without pixels cannot be written.

Other writers filter the rows and compress the stream. What counts of a file is the picture that is
decoded from it, and which pictures are refused; its bytes and its length are a matter of the writer.
-/

namespace Cutout.Png

/-- The data of the header chunk. -/
def headerData (w h : Nat) : Bytes :=
  Bytes.ofNatBE 4 w ++ Bytes.ofNatBE 4 h ++ [8, 6, 0, 0, 0]

/-- The four samples of a pixel. -/
def pixelData (p : Rgba UInt8) : Bytes :=
  [p.red, p.green, p.blue, p.alpha]

/-- A row: the number of its filter, and the pixels. -/
def rowData (r : Raster (Rgba UInt8)) (y : Nat) : Bytes :=
  0 :: (List.range r.width).flatMap fun x => pixelData (r.getD x y Rgba.clear)

/-- All rows. -/
def rowsData (r : Raster (Rgba UInt8)) : Bytes :=
  (List.range r.height).flatMap (rowData r)

/-- The longest chunk with pixels. -/
def longestChunk : Nat := 2147483647

/-- The chunks for a stream, each as long as possible. -/
def pixelChunks : (fuel : Nat) → Bytes → Bytes
  | 0, _ => []
  | fuel + 1, s =>
    if s.length ≤ longestChunk then chunk pixelsKind s
    else chunk pixelsKind (s.take longestChunk) ++ pixelChunks fuel (s.drop longestChunk)

/-- A picture written out. -/
def encode (r : Raster (Rgba UInt8)) : Except ImageFault Bytes :=
  if r.width = 0 ∨ r.height = 0 then .error (.io "a picture without pixels cannot be written")
  else
    let s := Deflate.pack (rowsData r)
    .ok (signature ++ chunk headerKind (headerData r.width r.height) ++
      pixelChunks (s.length / longestChunk + 1) s ++ chunk endKind [])

end Cutout.Png
