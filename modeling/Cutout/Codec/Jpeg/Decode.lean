import Cutout.Codec.Exif
import Cutout.Codec.Jpeg.Sampling
import Cutout.Image.Source

/-!
# Photographs

The blocks of all scans are turned into samples, and the samples into a gray picture or a coloured one.
-/

namespace Cutout.Jpeg

/-- The samples of the components of a picture. -/
def Preface.samples (p : Preface) (f : Frame) (planes : Planes) :
    Except ImageFault (List (Raster UInt8)) :=
  (f.components.zip planes.toList).mapM fun (c, plane) =>
    match p.scales.get? c.scale with
    | none => .error (fault "missing table")
    | some scales =>
      let scales := scales.toArray
      .ok (f.samples c (plane.map fun block => Jpeg.samples (block.scaled scales)))

/-- The picture of some samples. -/
def assemble (p : Preface) (f : Frame) : List (Raster UInt8) → Except ImageFault Picture
  | [gray] => .ok (.l8 (Raster.ofFn f.width f.height fun x y => gray.getD x y 0))
  | [first, second, third] =>
    .ok (.rgb8 (Raster.ofFn f.width f.height fun x y =>
      let (a, b, c) := (first.getD x y 0, second.getD x y 0, third.getD x y 0)
      if p.hasPlainColors then ⟨a, b, c⟩ else colorOf a b c))
  | _ => .error (unsupported "components")

/-- A picture that is read here: gray or in three colours, with one or two blocks of a component in each
direction. -/
def Frame.isCommon (f : Frame) : Bool :=
  f.components.length ≠ 4 ∧ f.components.all fun c => c.across ≤ 2 ∧ c.down ≤ 2

/-- Read everything in front of the first scan. Frames of four components are left to others. -/
def openJpeg [FurtherReaders] (b : Bytes) : Except ImageFault Source := do
  match ← readPreface (b.length + 1) .empty (b.drop 2) with
  | (_, none) => .error (fault "no scan")
  | (p, some (s, rest)) =>
    let orientation : Option Orientation := p.notes.bind Exif.orientation?
    match p.frame with
    | none => .error (fault "no frame")
    | some f =>
      if !f.isCommon then FurtherReaders.openOr (.feature .jpeg "components") .jpeg b (.ok orientation)
      else
        return {
          width := f.width
          height := f.height
          pixelType := if f.components.length = 1 then .l8 else .rgb8
          orientation := .ok orientation
          picture := fun _ => do
            let (p, planes) ← readScans f rest.length p s rest f.planes
            assemble p f (← p.samples f planes) }

end Cutout.Jpeg
