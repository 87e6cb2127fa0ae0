import Cutout.Codec.Checksum
import Cutout.Image.Fault

/-!
# Chunks

A file of this format is a signature and a sequence of chunks: a length, a kind of four letters,
data, and a checksum over kind and data. A kind that begins with a small letter can be ignored by
whoever does not know it.
-/

namespace Cutout.Png

/-- The first eight bytes of every file. -/
def signature : Bytes :=
  [0x89, 0x50, 0x4E, 0x47, 0x0D, 0x0A, 0x1A, 0x0A]

/-- A kind of chunk: four letters. -/
abbrev Kind := Bytes

/-- The kind of the first chunk. -/
def headerKind : Kind := Bytes.ofAscii "IHDR"

/-- The kind of the palette. -/
def paletteKind : Kind := Bytes.ofAscii "PLTE"

/-- The kind of the pixels. -/
def pixelsKind : Kind := Bytes.ofAscii "IDAT"

/-- The kind of the last chunk. -/
def endKind : Kind := Bytes.ofAscii "IEND"

/-- The kind of what is transparent. -/
def transparencyKind : Kind := Bytes.ofAscii "tRNS"

/-- The kind of the notes of a camera. -/
def notesKind : Kind := Bytes.ofAscii "eXIf"

/-- A kind without which the picture cannot be understood. -/
def isCritical (k : Kind) : Bool :=
  match k with
  | a :: _ => !a.toNat.testBit 5
  | [] => false

/-- The critical kinds that are understood. -/
def criticalKinds : List Kind :=
  [headerKind, paletteKind, pixelsKind, endKind]

/-- The checksum of a chunk. -/
def check (k : Kind) (data : Bytes) : Bytes :=
  Bytes.ofNatBE 4 (Checksum.crc32 (k ++ data)).toNat

/-- A chunk written out. -/
def chunk (k : Kind) (data : Bytes) : Bytes :=
  Bytes.ofNatBE 4 data.length ++ k ++ data ++ check k data

/-- The file breaks the rules of the format. -/
def malformed {α : Type} (detail : String) : Except ImageFault α :=
  .error (.decoding .png detail)

/-- Split off some bytes, or find that the file ends too early. -/
def take (n : Nat) (b : Bytes) : Except ImageFault (Bytes × Bytes) :=
  match Bytes.take? n b with
  | some r => .ok r
  | none => .error .truncated

/-- The length and the kind of the next chunk. -/
def chunkStart (b : Bytes) : Except ImageFault (Nat × Kind × Bytes) := do
  let (n, b) ← take 4 b
  let (k, b) ← take 4 b
  return (Bytes.toNatBE n, k, b)

/-- The data of a chunk, and whether its checksum is right. -/
def chunkBody (n : Nat) (k : Kind) (b : Bytes) : Except ImageFault (Bytes × Bool × Bytes) := do
  let (data, b) ← take n b
  let (sum, b) ← take 4 b
  return (data, sum == check k data, b)

end Cutout.Png
