import Cutout.Image.Picture
import Cutout.Image.Sample

/-!
# Resizing

Resampling with a windowed sinc of three lobes, first down the columns, then along the rows. Each
output sample is a weighted sum of input samples around its centre; the weights are divided by
their sum, so that a flat raster stays flat up to rounding.
-/

namespace Cutout

/-- The ratio of a circle's circumference to its diameter. -/
def circleRatio : Float32 :=
  3.1415927

/-- The cardinal sine of `π t`. -/
def sinc (t : Float32) : Float32 :=
  if t == 0 then 1
  else
    let a := t * circleRatio
    a.sin / a

/-- The cardinal sine, faded out over three lobes on each side. -/
def lanczos3 (x : Float32) : Float32 :=
  if x.abs < 3 then sinc x * sinc (x / 3) else 0

/-- The input samples that one output sample is made of, and how much each counts. -/
structure Taps where
  first : Nat
  weights : List Float32

/-- The taps of output sample `out` when `old` samples become `new`. When samples are dropped the
kernel is widened by the ratio of the sizes. -/
def taps (old new out : Nat) : Taps :=
  let ratio := single old / single new
  let scale := if ratio < 1 then 1 else ratio
  let support := 3 * scale
  let centre := (single out + 0.5) * ratio
  let first := min (wholeBelow (centre - support)) (old - 1)
  let last := min (max (wholeAbove (centre + support)) (first + 1)) old
  let origin := centre - 0.5
  let raw := (List.range (last - first)).map fun i =>
    lanczos3 ((single (first + i) - origin) / scale)
  let total := raw.foldl (fun s w => s + w) 0
  ⟨first, raw.map fun w => w / total⟩

/-- The weighted sum of the input samples `p first, p (first + 1), …`. -/
def Taps.apply (t : Taps) (p : Nat → Float32) : Float32 :=
  (t.weights.foldl (fun (s : Float32 × Nat) w => (s.1 + p s.2 * w, s.2 + 1)) (0, t.first)).1

namespace Raster

/-- A raster of samples stretched to a new height, before rounding. -/
def stretchColumns (r : Raster UInt8) (h : Nat) : Raster Float32 :=
  let t := Array.ofFn fun i : Fin h => taps r.height h i.val
  ofFn r.width h fun x y =>
    match t[y]? with
    | some t => t.apply fun j => (r.getD x j 0).toFloat32
    | none => 0

/-- A raster of numbers stretched to a new width and rounded to samples. -/
def stretchRows (r : Raster Float32) (w : Nat) : Raster UInt8 :=
  let t := Array.ofFn fun i : Fin w => taps r.width w i.val
  ofFn w r.height fun x y =>
    match t[x]? with
    | some t => nearestSample (t.apply fun j => r.getD j y 0)
    | none => 0

/-- A raster of samples at a new size. An empty raster has nothing to show, and becomes zero. -/
def resize (r : Raster UInt8) (w h : Nat) : Raster UInt8 :=
  if r.width = 0 ∨ r.height = 0 then fill w h 0
  else if r.width = w ∧ r.height = h then r
  else (r.stretchColumns h).stretchRows w

/-- A colour raster at a new size: each colour by itself. -/
def resizeRgb (r : Raster (Rgb UInt8)) (w h : Nat) : Raster (Rgb UInt8) :=
  let red := (r.map (·.red)).resize w h
  let green := (r.map (·.green)).resize w h
  let blue := (r.map (·.blue)).resize w h
  ofFn w h fun x y => ⟨red.getD x y 0, green.getD x y 0, blue.getD x y 0⟩

theorem width_resize (r : Raster UInt8) (w h : Nat) : (r.resize w h).width = w := by
  unfold resize
  split
  · rfl
  · split
    · next hs => exact hs.1
    · rfl

theorem height_resize (r : Raster UInt8) (w h : Nat) : (r.resize w h).height = h := by
  unfold resize
  split
  · rfl
  · split
    · next hs => exact hs.2
    · rfl

end Raster

end Cutout
