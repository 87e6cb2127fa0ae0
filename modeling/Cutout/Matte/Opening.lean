import Cutout.Matte.Scores

/-!
# Morphological opening

Erosion and dilation by a cross of five pixels, with the arms that leave the raster left out. An
erosion followed by a dilation removes what is too small to hold a cross.
-/

namespace Cutout.Matte

/-- The values of a matte on the cross around a pixel, as far as they are inside. -/
def cross (m : Matte) (x y : Nat) : List UInt8 :=
  [m.get? x y,
    if x = 0 then none else m.get? (x - 1) y,
    m.get? (x + 1) y,
    if y = 0 then none else m.get? x (y - 1),
    m.get? x (y + 1)].filterMap id

/-- Each pixel becomes the smallest value on its cross. -/
def erode (m : Matte) : Matte :=
  Raster.ofFn m.width m.height fun x y => (m.cross x y).foldl min 255

/-- Each pixel becomes the largest value on its cross. -/
def dilate (m : Matte) : Matte :=
  Raster.ofFn m.width m.height fun x y => (m.cross x y).foldl max 0

/-- Erosion, then dilation. -/
def opening (m : Matte) : Matte :=
  m.erode.dilate

end Cutout.Matte
