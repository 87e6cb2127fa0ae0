import Cutout.Codec.Webp.Code
import Cutout.Image.Picture

/-!
# Pixels of lossless pictures

A pixel is written sample by sample, or as its place among recent pixels, or as part of a copy of
pixels written before. The codes can change from one part of the picture to the next: a small picture
says which codes hold where.
-/

namespace Cutout.Webp

/-- A pixel. -/
abbrev Pixel := Rgba UInt8

/-! ## Recent pixels -/

/-- Pixels by a number that is computed from them. -/
structure Recent where
  /-- The bits of the number; 0 if no pixels are kept. -/
  bits : Nat
  pixels : Array Pixel

/-- No pixel has been seen. -/
def Recent.empty (bits : Nat) : Recent :=
  ⟨bits, Array.replicate (if bits = 0 then 0 else 1 <<< bits) Rgba.clear⟩

/-- The number of a pixel. -/
def Recent.key (r : Recent) (p : Pixel) : Nat :=
  let n := ((p.alpha.toNat * 256 + p.red.toNat) * 256 + p.green.toNat) * 256 + p.blue.toNat
  (n * 0x1E35A7BD % 0x100000000) >>> (32 - r.bits)

/-- A pixel has been written. -/
def Recent.see (r : Recent) (p : Pixel) : Recent :=
  if r.bits = 0 then r else { r with pixels := r.pixels.setIfInBounds (r.key p) p }

/-! ## Codes -/

/-- The codes of the samples. -/
structure Codes where
  green : Code
  red : Code
  blue : Code
  alpha : Code
  distance : Code

/-- The number of symbols for the lengths of copies. -/
def lengthSymbols : Nat := 24

/-- The number of symbols for distances. -/
def distanceSymbols : Nat := 40

/-- Read the codes of the samples. -/
def readCodes (recentBits : Nat) : BitReading Codes := do
  let green ← readCode (256 + lengthSymbols + (if recentBits = 0 then 0 else 1 <<< recentBits))
  let red ← readCode 256
  let blue ← readCode 256
  let alpha ← readCode 256
  let distance ← readCode distanceSymbols
  return ⟨green, red, blue, alpha, distance⟩

/-- Read as many codes as there are parts. -/
def readAllCodes (recentBits : Nat) : (n : Nat) → BitReading (List Codes)
  | 0 => return []
  | n + 1 => do
    let c ← readCodes recentBits
    let rest ← readAllCodes recentBits n
    return c :: rest

/-- The codes and where they hold. -/
structure Coding where
  recentBits : Nat
  codes : Array Codes
  /-- Which codes hold in a column and row. -/
  part : Nat → Nat → Nat

/-! ## Copies -/

/-- The number of a length or distance symbol. -/
def readSpan (symbol : Nat) : BitReading Nat := do
  if symbol < 4 then return symbol + 1
  else
    let size := (symbol - 2) / 2
    let more ← bits size
    return ((2 + symbol % 2) <<< size) + more + 1

/-- The near pixels that have short distance numbers: how far to the left and above they are. -/
def nearby : Array (Int × Nat) :=
  #[(0, 1), (1, 0), (1, 1), (-1, 1), (0, 2), (2, 0), (1, 2), (-1, 2), (2, 1), (-2, 1), (2, 2),
    (-2, 2), (0, 3), (3, 0), (1, 3), (-1, 3), (3, 1), (-3, 1), (2, 3), (-2, 3), (3, 2), (-3, 2),
    (0, 4), (4, 0), (1, 4), (-1, 4), (4, 1), (-4, 1), (3, 3), (-3, 3), (2, 4), (-2, 4), (4, 2),
    (-4, 2), (0, 5), (3, 4), (-3, 4), (4, 3), (-4, 3), (5, 0), (1, 5), (-1, 5), (5, 1), (-5, 1),
    (2, 5), (-2, 5), (5, 2), (-5, 2), (4, 4), (-4, 4), (3, 5), (-3, 5), (5, 3), (-5, 3), (0, 6),
    (6, 0), (1, 6), (-1, 6), (6, 1), (-6, 1), (2, 6), (-2, 6), (6, 2), (-6, 2), (4, 5), (-4, 5),
    (5, 4), (-5, 4), (3, 6), (-3, 6), (6, 3), (-6, 3), (0, 7), (7, 0), (1, 7), (-1, 7), (5, 5),
    (-5, 5), (7, 1), (-7, 1), (4, 6), (-4, 6), (6, 4), (-6, 4), (2, 7), (-2, 7), (7, 2), (-7, 2),
    (3, 7), (-3, 7), (7, 3), (-7, 3), (5, 6), (-5, 6), (6, 5), (-6, 5), (8, 0), (4, 7), (-4, 7),
    (7, 4), (-7, 4), (8, 1), (8, 2), (6, 6), (-6, 6), (8, 3), (5, 7), (-5, 7), (7, 5), (-7, 5),
    (8, 4), (6, 7), (-6, 7), (7, 6), (-7, 6), (8, 5), (7, 7), (-7, 7), (8, 6), (8, 7)]

/-- How far back a copy starts in a picture of width `w`. -/
def distanceOf (w number : Nat) : Nat :=
  match nearby[number - 1]? with
  | some (left, above) => max 1 (left + (above * w : Nat)).toNat
  | none => number - 120

/-- Copy `n` pixels from `distance` pixels back, one by one. -/
def copy (distance : Nat) : (n : Nat) → Array Pixel → Recent → Array Pixel × Recent
  | 0, out, r => (out, r)
  | n + 1, out, r =>
    let p := out.getD (out.size - distance) Rgba.clear
    copy distance n (out.push p) (r.see p)

/-! ## Pictures -/

/-- Read pixels until there are `n`. -/
def readPixels (c : Coding) (w n : Nat) :
    (fuel : Nat) → Array Pixel → Recent → BitReading (Array Pixel)
  | 0, out, _ => return out
  | fuel + 1, out, recent => do
    let i := out.size
    if n ≤ i then return out
    else
      match c.codes[c.part (i % w) (i / w)]? with
      | none => broken
      | some codes =>
        let symbol ← codes.green.read
        -- the sample itself, and the other three
        if symbol < 256 then
          let red ← codes.red.read
          let blue ← codes.blue.read
          let alpha ← codes.alpha.read
          let byte := UInt8.ofNat
          let p : Pixel := ⟨byte red, byte symbol, byte blue, byte alpha⟩
          readPixels c w n fuel (out.push p) (recent.see p)
        -- a copy of pixels written before
        else if symbol < 256 + lengthSymbols then
          let length ← readSpan (symbol - 256)
          let number ← readSpan (← codes.distance.read)
          let distance := distanceOf w number
          if i < distance ∨ n - i < length then broken
          else
            let (out, recent) := copy distance length out recent
            readPixels c w n fuel out recent
        -- a recent pixel
        else
          match recent.pixels[symbol - (256 + lengthSymbols)]? with
          | none => broken
          | some p => readPixels c w n fuel (out.push p) (recent.see p)

/-- Read a picture of a size. -/
def readRaster (c : Coding) (w h : Nat) : BitReading (Raster Pixel) := do
  let out ← readPixels c w (w * h) (w * h) #[] (.empty c.recentBits)
  match Raster.ofArray? w h out with
  | some r => return r
  | none => broken

/-- The bits of the numbers of recent pixels. -/
def readRecentBits : BitReading Nat := do
  if ← flag then
    let n ← bits 4
    if n = 0 ∨ 11 < n then broken else return n
  else return 0

/-- Read a small picture, with the same codes everywhere. -/
def readPlain (w h : Nat) : BitReading (Raster Pixel) := do
  let n ← readRecentBits
  let codes ← readCodes n
  readRaster ⟨n, #[codes], fun _ _ => 0⟩ w h

/-- The number of parts of `2 ^ n` pixels in a side. -/
def parts (side n : Nat) : Nat :=
  (side + 1 <<< n - 1) >>> n

/-- The number of a part, in two samples of a pixel. -/
def partNumber (p : Pixel) : Nat :=
  p.red.toNat * 256 + p.green.toNat

/-- Read the picture itself. -/
def readMain (w h : Nat) : BitReading (Raster Pixel) := do
  let n ← readRecentBits
  if ← flag then
    let size := (← bits 3) + 2
    -- the small picture says which codes hold in which part
    let map ← readPlain (parts w size) (parts h size)
    let count := (map.toList.map partNumber).foldl max 0 + 1
    let codes ← readAllCodes n count
    let part (x y : Nat) : Nat := partNumber (map.getD (x >>> size) (y >>> size) Rgba.clear)
    readRaster ⟨n, codes.toArray, part⟩ w h
  else
    let codes ← readCodes n
    readRaster ⟨n, #[codes], fun _ _ => 0⟩ w h

end Cutout.Webp
