import Cutout.Codec.Jpeg.Scan
import Cutout.Codec.Jpeg.Transform
import Cutout.Image.Picture

/-!
# Samples of components

A component may have half as many samples in a direction as the picture. Each sample then becomes two,
and each of them is moved by a quarter towards the neighbour on its side.
-/

namespace Cutout.Jpeg

/-- The samples of a plane with so many blocks side by side and one below the other. -/
def samplesOf (across down : Nat) (plane : Array (Array UInt8)) : Raster UInt8 :=
  Raster.ofFn (8 * across) (8 * down) fun x y =>
    (plane.getD (y / 8 * across + x / 8) #[]).getD (y % 8 * 8 + x % 8) 0

/-- Three parts of one sample and one part of another. -/
def blend (near far : UInt8) : UInt8 :=
  UInt8.ofNat ((3 * near.toNat + far.toNat + 2) / 4)

/-- Twice as many samples side by side. -/
def doubleAcross (r : Raster UInt8) : Raster UInt8 :=
  Raster.ofFn (2 * r.width) r.height fun x y =>
    blend (r.getD (x / 2) y 0) (r.getD (otherSample r.width x) y 0)

/-- Twice as many samples one below the other. -/
def doubleDown (r : Raster UInt8) : Raster UInt8 :=
  Raster.ofFn r.width (2 * r.height) fun x y =>
    blend (r.getD x (y / 2) 0) (r.getD x (otherSample r.height y) 0)

/-- The samples of a component, as many as the picture has. -/
def Frame.samples (f : Frame) (c : Component) (plane : Array (Array UInt8)) : Raster UInt8 :=
  let r := samplesOf (f.placesAcross * c.across) (f.placesDown * c.down) plane
  let r := if c.down < f.down then doubleDown r else r
  if c.across < f.across then doubleAcross r else r

end Cutout.Jpeg
