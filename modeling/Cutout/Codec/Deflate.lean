import Cutout.Codec.Checksum

/-!
# Writing streams without compression

The simplest stream for a byte string: blocks of bytes as they are, each as long as possible, the
two bytes of the method in front and the checksum behind.
-/

namespace Cutout.Deflate

/-- The longest block. -/
def longestBlock : Nat := 65535

/-- One block of bytes as they are. -/
def block (last : Bool) (b : Bytes) : Bytes :=
  [if last then 1 else 0] ++ Bytes.ofNatLE 2 b.length ++
    Bytes.ofNatLE 2 (longestBlock - b.length) ++ b

/-- The blocks of a byte string. -/
def blocks : (fuel : Nat) → Bytes → Bytes
  | 0, _ => []
  | fuel + 1, b =>
    if b.length ≤ longestBlock then block true b
    else block false (b.take longestBlock) ++ blocks fuel (b.drop longestBlock)

/-- The stream for a byte string. -/
def pack (b : Bytes) : Bytes :=
  [0x78, 0x01] ++ blocks (b.length / longestBlock + 1) b ++ Bytes.ofNatBE 4 (Checksum.adler32 b)

end Cutout.Deflate
