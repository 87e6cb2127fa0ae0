import Cutout.Codec.Reading

/-!
# Chunks

A file is a sequence of chunks behind a common header. A chunk has a name of four letters, a length
and data, and is filled up to an even length.
-/

namespace Cutout.Webp

/-- The file breaks the rules of the format. -/
def fault (detail : String) : ImageFault :=
  .decoding .webp detail

/-- The name of a chunk. -/
abbrev Name := Bytes

/-- The name of the common header. -/
def riffName : Name := Bytes.ofAscii "RIFF"

/-- What the common header is about. -/
def webpName : Name := Bytes.ofAscii "WEBP"

/-- The chunk with a lossy picture. -/
def lossyName : Name := Bytes.ofAscii "VP8 "

/-- The chunk with a lossless picture. -/
def losslessName : Name := Bytes.ofAscii "VP8L"

/-- The chunk that announces further chunks. -/
def extendedName : Name := Bytes.ofAscii "VP8X"

/-- The chunk with opacity. -/
def alphaName : Name := Bytes.ofAscii "ALPH"

/-- The chunk with a camera's notes. -/
def notesName : Name := Bytes.ofAscii "EXIF"

/-- The chunk with other notes. -/
def otherNotesName : Name := Bytes.ofAscii "XMP "

/-- The chunk about an animation. -/
def animationName : Name := Bytes.ofAscii "ANIM"

/-- The chunk with a picture of an animation. -/
def frameName : Name := Bytes.ofAscii "ANMF"

/-- A chunk. -/
structure Chunk where
  name : Name
  data : Bytes
  deriving DecidableEq, Repr

/-- A chunk written out. -/
def Chunk.bytes (c : Chunk) : Bytes :=
  c.name ++ Bytes.ofNatLE 4 c.data.length ++ c.data ++ List.replicate (c.data.length % 2) 0

/-- A file of chunks written out. -/
def fileOf (chunks : List Chunk) : Bytes :=
  let content := webpName ++ chunks.flatMap Chunk.bytes
  riffName ++ Bytes.ofNatLE 4 content.length ++ content

/-- The name and the length of the next chunk. -/
def chunkHead : Reading (Name × Nat) := do
  let name ← Reading.bytes .truncated 4
  let n ← Reading.little .truncated 4
  return (name, n)

/-- The chunks of a file. Of a chunk that is cut off there is what there is, and half a header is
passed over. -/
def chunksFrom : (fuel : Nat) → Bytes → List Chunk
  | 0, _ => []
  | fuel + 1, b =>
    match chunkHead b with
    | .error _ => []
    | .ok ((name, n), b) => ⟨name, b.take n⟩ :: chunksFrom fuel (b.drop (n + n % 2))

/-- All chunks of some bytes. -/
def chunks (b : Bytes) : List Chunk :=
  chunksFrom b.length b

/-- The data of the first chunk with this name. -/
def find? (cs : List Chunk) (name : Name) : Option Bytes :=
  (cs.find? fun c => c.name == name).map Chunk.data

/-- The data of the first chunk with this name, which has to be there to its end. -/
def completeFrom (name : Name) : (fuel : Nat) → Bytes → Except ImageFault (Option Bytes)
  | 0, _ => .ok none
  | fuel + 1, b =>
    match chunkHead b with
    | .error _ => .ok none
    | .ok ((other, n), b) =>
      if other = name then (Reading.bytes .truncated n b).map fun r => some r.1
      else completeFrom name fuel (b.drop (n + n % 2))

/-- The data of the first chunk with this name in some bytes, which has to be there to its end. -/
def complete (name : Name) (b : Bytes) : Except ImageFault (Option Bytes) :=
  completeFrom name b.length b

/-- What follows the common header. -/
def content : Reading Unit := do
  let riff ← Reading.bytes .truncated 4
  let _ ← Reading.bytes .truncated 4
  let kind ← Reading.bytes .truncated 4
  if riff = riffName ∧ kind = webpName then return () else Reading.fail (fault "signature")

end Cutout.Webp
