import Cutout.Image.Raster

/-!
# Mattes from scores

A matte says how much of each pixel belongs to the subject, from 0 to 255. A model answers with one
number per pixel on a scale of its own; `ofScores` spreads the range that occurs over the range of a
matte. Scores that are not numbers are left out of the range and belong to the background, and a
flat answer carries no subject at all.
-/

namespace Cutout

/-- How much of each pixel belongs to the subject. -/
abbrev Matte := Raster UInt8

namespace Matte

/-- The single-precision number above all others. -/
def top : Float32 :=
  Float32.ofBits 0x7F800000

/-- The single-precision number below all others. -/
def bottom : Float32 :=
  Float32.ofBits 0xFF800000

/-- The distance from one to the next single-precision number. -/
def grain : Float32 :=
  Float32.ofBits 0x34000000

/-- The smaller of two scores, passing over a new one that is not a number. -/
def lesser (lo v : Float32) : Float32 :=
  if v < lo then v else lo

/-- The larger of two scores, passing over a new one that is not a number. -/
def greater (hi v : Float32) : Float32 :=
  if hi < v then v else hi

/-- The smallest and the largest of the scores that are numbers. -/
def bounds (scores : List Float32) : Float32 × Float32 :=
  scores.foldl (fun b v => (lesser b.1 v, greater b.2 v)) (top, bottom)

/-- A score brought between two bounds. What is not a number stays. -/
def clamp (lo hi v : Float32) : Float32 :=
  let v := if v < lo then lo else v
  if hi < v then hi else v

/-- The matte value of a score between two bounds, cut off towards zero. -/
def level (lo hi v : Float32) : UInt8 :=
  if grain < hi - lo then (clamp 0 255 ((v - lo) / (hi - lo) * 255)).toUInt8 else 0

/-- The matte of a model's scores, row by row, if there is one score for each pixel. -/
def ofScores (scores : List Float32) (w h : Nat) : Option Matte :=
  let (lo, hi) := bounds scores
  Raster.ofArray? w h (scores.toArray.map (level lo hi))

end Matte

end Cutout
