import Cutout.Matte.Opening
import Cutout.Matte.Blur

/-!
# Cleaning a matte

Opening removes speckles, blurring smooths the outline, and a threshold makes the result binary.
-/

namespace Cutout.Matte

/-- From this value on a pixel belongs to the subject. -/
def threshold : UInt8 := 127

/-- All or nothing. -/
def decideLevel (v : UInt8) : UInt8 :=
  if threshold ≤ v then 255 else 0

/-- The cleaned matte: every pixel is 0 or 255. -/
def clean (m : Matte) : Matte :=
  m.opening.blur.map decideLevel

end Cutout.Matte
