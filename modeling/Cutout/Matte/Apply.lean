import Cutout.Matte.Scores
import Cutout.Image.Picture

/-!
# Applying a matte

The matte becomes the opacity of the picture. Where it is 0 nothing of the picture is kept, so that
the background cannot be recovered from the result.
-/

namespace Cutout

/-- A pixel under one value of a matte. -/
def Rgba.under (p : Rgba UInt8) (alpha : UInt8) : Rgba UInt8 :=
  if alpha = 0 then Rgba.clear else ⟨p.red, p.green, p.blue, alpha⟩

/-- The picture cut out by a matte of its size. -/
def Raster.cutBy? (image : Raster (Rgba UInt8)) (matte : Matte) : Option (Raster (Rgba UInt8)) :=
  if image.SameSize matte then
    some (Raster.ofFn image.width image.height fun x y =>
      (image.getD x y Rgba.clear).under (matte.getD x y 0))
  else none

end Cutout
