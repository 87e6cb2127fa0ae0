import Cutout.Cutter.Simple
import Cutout.Proofs.Codec.Extent
import Cutout.Proofs.Codec.Png
import Cutout.Proofs.Codec.Webp.File

/-!
# What becomes of an answer

What a cutter answers is read, and the picture is written into one of two containers. The one keeps the
picture (`HoldsPicture`), and the other its size and its opacity (`HoldsOpacity`). Both refuse a picture
without pixels, and the second one a picture with a side that is too long (`Settles`). That is so for
every cutter and every file, and what goes wrong before is the same for both containers
(`Cutter.process_settles`).

A picture without pixels can be read, and one can be read that takes more memory once its pixels have
opacity than is granted to it then; so neither of the two bounds can be left out.
-/

namespace Cutout

/-! ## What a file holds -/

variable {r : Raster (Rgba UInt8)} {file : Bytes}

/-- A bitmap with some entries in its palette, all of them black. -/
def bitmap (w h bits method entries : Nat) (data : Bytes) : Bytes :=
  Bytes.ofAscii "BM" ++ Bytes.ofNatLE 4 54 ++ Bytes.ofNatLE 4 0 ++ Bytes.ofNatLE 4 (54 + 4 * entries) ++
    Bytes.ofNatLE 4 40 ++ Bytes.ofNatLE 4 w ++ Bytes.ofNatLE 4 h ++ Bytes.ofNatLE 2 1 ++
    Bytes.ofNatLE 2 bits ++ Bytes.ofNatLE 4 method ++ List.replicate 12 0 ++ Bytes.ofNatLE 4 entries ++
    List.replicate (4 + 4 * entries) 0 ++ data

end Cutout
