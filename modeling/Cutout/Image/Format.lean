import Cutout.Bytes

/-!
# Image formats

The formats that can be told apart by their first bytes. Only some of them can be decoded; the
others are recognised so that the refusal can name them.
-/

namespace Cutout

/-- A format that is recognised by its signature. -/
inductive ImageFormat where
  | png | jpeg | gif | webp | pnm | tiff | dds | bmp | ico | hdr | openExr | farbfeld | avif | qoi
  deriving DecidableEq, Repr

namespace ImageFormat

/-- The name of a format in messages. -/
def label : ImageFormat → String
  | png => "Png"
  | jpeg => "Jpeg"
  | gif => "Gif"
  | webp => "WebP"
  | pnm => "Pnm"
  | tiff => "Tiff"
  | dds => "Dds"
  | bmp => "Bmp"
  | ico => "Ico"
  | hdr => "Hdr"
  | openExr => "OpenExr"
  | farbfeld => "Farbfeld"
  | avif => "Avif"
  | qoi => "Qoi"

/-- A signature: each position is a fixed byte or can be anything. -/
abbrev Signature := List (Option UInt8)

/-- The bytes of an ASCII text, all fixed. -/
def fixed (s : String) : Signature :=
  (Bytes.ofAscii s).map some

/-- Positions that can be anything. -/
def anything (n : Nat) : Signature :=
  List.replicate n none

/-- A byte string begins with a signature. -/
def matchesSignature : Signature → Bytes → Bool
  | [], _ => true
  | _ :: _, [] => false
  | none :: s, _ :: b => matchesSignature s b
  | some x :: s, y :: b => x == y && matchesSignature s b

/-- The signatures, in the order in which they are tried. -/
def signatures : List (Signature × ImageFormat) :=
  [(some 0x89 :: fixed "PNG\r\n\x1a\n", png),
   ([some 0xff, some 0xd8, some 0xff], jpeg),
   (fixed "GIF89a", gif),
   (fixed "GIF87a", gif),
   (fixed "RIFF" ++ anything 4 ++ fixed "WEBP", webp),
   (fixed "MM\x00*", tiff),
   (fixed "II*\x00", tiff),
   (fixed "DDS ", dds),
   (fixed "BM", bmp),
   ([some 0, some 0, some 1, some 0], ico),
   (fixed "#?RADIANCE", hdr),
   ([some 0, some 0] ++ anything 2 ++ fixed "ftypavif", avif),
   ([some 0x76, some 0x2f, some 0x31, some 0x01], openExr),
   (fixed "qoif", qoi),
   (fixed "P1", pnm), (fixed "P2", pnm), (fixed "P3", pnm), (fixed "P4", pnm),
   (fixed "P5", pnm), (fixed "P6", pnm), (fixed "P7", pnm),
   (fixed "farbfeld", farbfeld)]

/-- The format that a byte string announces by its first bytes. -/
def sniff (b : Bytes) : Option ImageFormat :=
  (signatures.find? fun s => matchesSignature s.1 b).map (·.2)

end ImageFormat

end Cutout
