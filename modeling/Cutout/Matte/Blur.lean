import Cutout.Matte.Scores
import Cutout.Image.Sample

/-!
# Blurring

A Gaussian of standard deviation two, cut off after five pixels on each side and scaled to sum one.
It is applied along the rows, then down the columns; beyond an edge the edge pixel is repeated.
-/

namespace Cutout.Matte

/-- The weight of the pixel in the middle. -/
def weight0 : Float32 := 0.200565428

/-- The weight of the pixels one step away. -/
def weight1 : Float32 := 0.176998362

/-- The weight of the pixels two steps away. -/
def weight2 : Float32 := 0.121649079

/-- The weight of the pixels three steps away. -/
def weight3 : Float32 := 0.0651140586

/-- The weight of the pixels four steps away. -/
def weight4 : Float32 := 0.027143579

/-- The weight of the pixels five steps away. -/
def weight5 : Float32 := 0.00881223008

/-- The weighted sum of eleven values, the middle one first and then the pairs from the outside
in. -/
def weigh (p : Nat → Float32) : Float32 :=
  p 5 * weight0 + (p 0 + p 10) * weight5 + (p 1 + p 9) * weight4 + (p 2 + p 8) * weight3 +
    (p 3 + p 7) * weight2 + (p 4 + p 6) * weight1

/-- Entry `k` of the window of eleven around `i` in a line of `n` pixels, kept inside the line. -/
def window (n i k : Nat) : Nat :=
  min (i + k - 5) (n - 1)

/-- The blur of a matte along its rows, before rounding. -/
def blurRows (m : Matte) : Raster Float32 :=
  Raster.ofFn m.width m.height fun x y =>
    weigh fun k => (m.getD (window m.width x k) y 0).toFloat32

/-- The blur of a raster of numbers down its columns, rounded to samples. -/
def blurColumns (r : Raster Float32) : Matte :=
  Raster.ofFn r.width r.height fun x y =>
    nearestSample (weigh fun k => r.getD x (window r.height y k) 0)

/-- The blurred matte. -/
def blur (m : Matte) : Matte :=
  blurColumns (blurRows m)

end Cutout.Matte
