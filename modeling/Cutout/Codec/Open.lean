import Cutout.Codec.Bmp
import Cutout.Codec.Gif
import Cutout.Codec.Jpeg.Decode
import Cutout.Codec.Png.Decode
import Cutout.Codec.Tiff
import Cutout.Codec.Webp.Decode

/-!
# Reading images

The first bytes of a file say which format it has. A picture is read as it is stored, in colour with
opacity, or in its own pixel type and turned upright.
-/

namespace Cutout

variable [FurtherReaders]

/-- The reader of a format, if there is one. -/
def ImageFormat.reader? : ImageFormat → Option (Bytes → Except ImageFault Source)
  | .png => some Png.openPng
  | .jpeg => some Jpeg.openJpeg
  | .gif => some Gif.openGif
  | .webp => some Webp.openWebp
  | .tiff => some Tiff.openTiff
  | .bmp => some Bmp.openBmp
  | _ => none

/-- Open an image file. -/
def Source.ofBytes (b : Bytes) : Except ImageFault Source :=
  match ImageFormat.sniff b with
  | none => .error (.unsupported .unknownFormat)
  | some f =>
    match f.reader? with
    | none => .error (.unsupported (.format f))
    | some read => read b

/-- Read the picture in a file as it is stored, in colour with opacity. -/
def readStored (b : Bytes) : Except ImageFault (Raster (Rgba UInt8)) := do
  let s ← Source.ofBytes b
  let p ← s.asStored
  return p.toRgba8

/-- Read the picture in a file and turn it upright. -/
def readUpright (b : Bytes) : Except ImageFault Picture := do
  let s ← Source.ofBytes b
  s.upright

/-- What is opened is read, unless it takes too much memory. -/
theorem readStored_of_ofBytes {b : Bytes} {s : Source} {p : Picture} (h : Source.ofBytes b = .ok s)
    (hp : s.picture (memoryLimit - s.size) = .ok p) :
    readStored b =
      if memoryLimit < s.size then .error (.limits .memory) else .ok p.toRgba8 := by
  unfold readStored Source.asStored
  simp only [h, hp, bind, Except.bind]
  by_cases hmemory : memoryLimit < s.size
  · rw [if_pos hmemory, if_pos hmemory]
  · rw [if_neg hmemory, if_neg hmemory]
    rfl

/-- A picture is read as it is stored exactly if the file is opened, its pixels are read and they do
not take too much memory. -/
theorem readStored_eq_ok_iff {b : Bytes} {r : Raster (Rgba UInt8)} :
    readStored b = .ok r ↔
      ∃ s p, Source.ofBytes b = .ok s ∧ s.picture (memoryLimit - s.size) = .ok p ∧ s.size ≤ memoryLimit ∧
        p.toRgba8 = r := by
  unfold readStored
  rw [bind_eq_ok_iff]
  refine exists_congr fun s => ?_
  rw [bind_eq_ok_iff, ← exists_and_left]
  refine exists_congr fun p => and_congr_right fun _ => ?_
  rw [Source.asStored_eq_ok_iff, and_assoc]
  refine and_congr_right fun _ => and_congr_right fun _ => ?_
  exact ⟨Except.ok.inj, congrArg Except.ok⟩

/-- A picture is read upright exactly if the file is opened, its notes can be read and its pixels are
read. -/
theorem readUpright_eq_ok_iff {b : Bytes} {q : Picture} :
    readUpright b = .ok q ↔
      ∃ s tag p, Source.ofBytes b = .ok s ∧ s.orientation = .ok tag ∧ s.picture memoryLimit = .ok p ∧
        p.orient (tag.getD .asStored) = q := by
  unfold readUpright
  rw [bind_eq_ok_iff]
  refine exists_congr fun s => ?_
  rw [Source.upright_eq_ok_iff]
  simp only [exists_and_left]

end Cutout
