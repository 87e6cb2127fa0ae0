import Cutout.Bytes

/-!
# Checksums

The cyclic redundancy check of 32 bits that guards the chunks of a file, and the pair of running
sums that guards a compressed stream. Both are left folds over the bytes.
-/

namespace Cutout.Checksum

/-- One bit of the cyclic redundancy check. -/
def crcBit (c : UInt32) : UInt32 :=
  if c &&& 1 = 1 then (0xEDB88320 : UInt32) ^^^ (c >>> 1) else c >>> 1

/-- Eight bits of the cyclic redundancy check. -/
def crcByte (c : UInt32) : UInt32 :=
  crcBit (crcBit (crcBit (crcBit (crcBit (crcBit (crcBit (crcBit c)))))))

/-- The cyclic redundancy check of a byte string. -/
def crc32 (b : Bytes) : UInt32 :=
  (b.foldl (fun c x => crcByte ((c ^^^ x.toUInt32) &&& (0xFF : UInt32)) ^^^ (c >>> 8))
      (0xFFFFFFFF : UInt32)) ^^^
    0xFFFFFFFF

/-- The modulus of the running sums: the largest prime below `2 ^ 16`. -/
def adlerModulus : Nat := 65521

/-- The running sums of a byte string. -/
def adlerSums (b : Bytes) : Nat × Nat :=
  b.foldl
    (fun s x =>
      let low := (s.1 + x.toNat) % adlerModulus
      (low, (s.2 + low) % adlerModulus))
    (1, 0)

/-- The two running sums as one number. -/
def adler32 (b : Bytes) : Nat :=
  let s := adlerSums b
  s.2 * 65536 + s.1

end Cutout.Checksum
