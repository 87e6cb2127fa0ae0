import Cutout.Codec.Png.Encode
import Cutout.Codec.Webp.Encode
import Cutout.Container

/-!
# Writing results

A result is written in one of the two containers.
-/

namespace Cutout

/-- A picture written into a container. -/
def Container.encode (c : Container) (r : Raster (Rgba UInt8)) : Except Failure Bytes :=
  match c with
  | .png => (Png.encode r).mapError .image
  | .webp => Webp.encode r

end Cutout
