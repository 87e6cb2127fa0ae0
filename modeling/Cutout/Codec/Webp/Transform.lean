import Cutout.Codec.Webp.Pixels
import Cutout.Image.Sample

/-!
# Transforms of lossless pictures

Before a picture is written, its pixels are replaced by what is left after prediction from their
neighbours, by differences between their samples, or by numbers of a palette. Each transform is undone
after reading, the last one first.
-/

namespace Cutout.Webp

/-! ## Prediction -/

/-- Combine two pixels sample by sample. -/
def Pixel.zip (f : UInt8 → UInt8 → UInt8) (p q : Pixel) : Pixel :=
  ⟨f p.red q.red, f p.green q.green, f p.blue q.blue, f p.alpha q.alpha⟩

/-- The sums of the samples, without carry. -/
def Pixel.plus (p q : Pixel) : Pixel :=
  Pixel.zip (· + ·) p q

/-- The means of the samples, rounded down. -/
def Pixel.mean (p q : Pixel) : Pixel :=
  Pixel.zip (fun a b => UInt8.ofNat ((a.toNat + b.toNat) / 2)) p q

/-- The sum of the distances of the samples. -/
def Pixel.distance (p q : Pixel) : Nat :=
  let d (a b : UInt8) : Nat := ((a.toNat : Int) - b.toNat).natAbs
  d p.red q.red + d p.green q.green + d p.blue q.blue + d p.alpha q.alpha

/-- Go from one sample by the difference of two others. -/
def stepFull (a b c : UInt8) : UInt8 :=
  sampleOf (a.toNat + b.toNat - c.toNat)

/-- Go from a sample by half of its difference from another. -/
def stepHalf (a b : UInt8) : UInt8 :=
  sampleOf (a.toNat + ((a.toNat : Int) - b.toNat).tdiv 2)

/-- The opaque black pixel. -/
def black : Pixel := ⟨0, 0, 0, 255⟩

/-- What a mode predicts from the neighbours to the left, above, and above to either side. -/
def predict (mode : Nat) (l t tr tl : Pixel) : Pixel :=
  match mode with
  | 0 => black
  | 1 => l
  | 2 => t
  | 3 => tr
  | 4 => tl
  | 5 => Pixel.mean (Pixel.mean l tr) t
  | 6 => Pixel.mean l tl
  | 7 => Pixel.mean l t
  | 8 => Pixel.mean tl t
  | 9 => Pixel.mean t tr
  | 10 => Pixel.mean (Pixel.mean l tl) (Pixel.mean t tr)
  | 11 => if Pixel.distance t tl < Pixel.distance l tl then l else t
  | 12 =>
    ⟨stepFull l.red t.red tl.red, stepFull l.green t.green tl.green,
      stepFull l.blue t.blue tl.blue, stepFull l.alpha t.alpha tl.alpha⟩
  | 13 => Pixel.zip stepHalf (Pixel.mean l t) tl
  | _ => Rgba.clear

/-- Add the predictions to the pixels. The first pixel is predicted black, the others of the first
row from the left, and the others of the first column from above. -/
def addPredictions (w : Nat) (mode : Nat → Nat → Nat) (pixels : Array Pixel) : Array Pixel :=
  pixels.foldl (fun out p =>
    let i := out.size
    let x := i % w
    let y := i / w
    let back (n : Nat) : Pixel := out.getD (i - n) Rgba.clear
    let guess :=
      if y = 0 then (if x = 0 then black else back 1)
      else if x = 0 then back w
      else predict (mode x y) (back 1) (back w) (back (w - 1)) (back (w + 1))
    out.push (Pixel.plus p guess)) (Array.mkEmpty pixels.size)

/-! ## Samples -/

/-- A byte as a number with a sign. -/
def signedByte (b : UInt8) : Int :=
  if b.toNat < 128 then b.toNat else (b.toNat : Int) - 256

/-- The share of a sample in another. -/
def share (factor sample : UInt8) : Int :=
  signedByte factor * signedByte sample / 32

/-- The byte of a number, without its carry. -/
def wrap (v : Int) : UInt8 :=
  UInt8.ofNat (v % 256).toNat

/-- Add the shares of green in red and blue, and that of red in blue. -/
def addShares (factors p : Pixel) : Pixel :=
  let red := wrap (p.red.toNat + share factors.blue p.green)
  let blue := wrap (p.blue.toNat + share factors.green p.green + share factors.red red)
  ⟨red, p.green, blue, p.alpha⟩

/-- Add green to red and blue. -/
def addGreen (p : Pixel) : Pixel :=
  ⟨p.red + p.green, p.green, p.blue + p.green, p.alpha⟩

/-- The sums of the pixels up to each of them. -/
def runningSums : Pixel → List Pixel → List Pixel
  | _, [] => []
  | sum, p :: ps => Pixel.plus sum p :: runningSums (Pixel.plus sum p) ps

/-! ## Transforms -/

/-- A transform. -/
inductive Transform where
  /-- Pixels are what prediction leaves; the modes are given for squares of `2 ^ size` pixels. -/
  | prediction (size : Nat) (modes : Raster Pixel)
  /-- Samples are what the shares leave; the factors are given for squares. -/
  | shares (size : Nat) (factors : Raster Pixel)
  /-- Red and blue are differences from green. -/
  | green
  /-- Pixels are numbers of colours, `2 ^ packed` of them in one green sample. -/
  | palette (colors : Array Pixel) (packed width : Nat)

/-- The entry for a column and row. -/
def blockAt (size : Nat) (r : Raster Pixel) (x y : Nat) : Pixel :=
  r.getD (x >>> size) (y >>> size) Rgba.clear

/-- Undo a transform. -/
def Transform.undo (t : Transform) (r : Raster Pixel) : Raster Pixel :=
  match t with
  | .prediction size modes =>
    let out := addPredictions r.width (fun x y => (blockAt size modes x y).green.toNat) r.pixels
    (Raster.ofArray? r.width r.height out).getD r
  | .shares size factors =>
    Raster.ofFn r.width r.height fun x y =>
      addShares (blockAt size factors x y) (r.getD x y Rgba.clear)
  | .green => r.map addGreen
  | .palette colors packed w =>
    Raster.ofFn w r.height fun x y =>
      let each := 8 >>> packed
      let n := (r.getD (x >>> packed) y Rgba.clear).green.toNat
      let i := n >>> (x % (1 <<< packed) * each) % (1 <<< each)
      colors.getD i Rgba.clear

/-- How many colours of a palette go into one sample, as a power of two. -/
def packing (colors : Nat) : Nat :=
  if colors ≤ 2 then 3 else if colors ≤ 4 then 2 else if colors ≤ 16 then 1 else 0

/-- Read the transforms, the last one first, and the width that is left. None comes twice. -/
def readTransforms (h : Nat) :
    (fuel : Nat) → (seen : List Nat) → (w : Nat) → List Transform →
      BitReading (List Transform × Nat)
  | 0, _, _, _ => broken
  | fuel + 1, seen, w, ts => do
    if ← flag then
      let kind ← bits 2
      if seen.contains kind then broken
      else
        let seen := kind :: seen
        match kind with
        | 0 =>
          let size := (← bits 3) + 2
          let modes ← readPlain (parts w size) (parts h size)
          readTransforms h fuel seen w (.prediction size modes :: ts)
        | 1 =>
          let size := (← bits 3) + 2
          let factors ← readPlain (parts w size) (parts h size)
          readTransforms h fuel seen w (.shares size factors :: ts)
        | 2 => readTransforms h fuel seen w (.green :: ts)
        | _ =>
          let n := (← bits 8) + 1
          let row ← readPlain n 1
          let colors := runningSums Rgba.clear row.toList
          let packed := packing n
          readTransforms h fuel seen (parts w packed) (.palette colors.toArray packed w :: ts)
    else return (ts, w)

end Cutout.Webp
