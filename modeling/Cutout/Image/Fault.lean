import Cutout.Image.Format

/-!
# Faults of decoding and encoding

Why an image cannot be read or written, and the text that says so.
-/

namespace Cutout

/-- What an image asks for beyond what the decoder grants. -/
inductive Excess where
  /-- A side is too long. -/
  | dimensions
  /-- The pixels take too much memory. -/
  | memory
  deriving DecidableEq, Repr

/-- What a decoder does not offer. -/
inductive Unsupported where
  /-- No signature fits. -/
  | unknownFormat
  /-- The format is known and not decoded here. -/
  | format (f : ImageFormat)
  /-- The format is decoded, but not this pixel layout. -/
  | color (f : ImageFormat) (detail : String)
  /-- The format is decoded, but not this part of it. -/
  | feature (f : ImageFormat) (detail : String)
  deriving DecidableEq, Repr

/-- Why an image cannot be read or written. -/
inductive ImageFault where
  /-- The bytes break the rules of the format. -/
  | decoding (f : ImageFormat) (detail : String)
  /-- The image breaks the rules of the format. -/
  | encoding (f : ImageFormat) (detail : String)
  /-- A size or a pixel count that does not fit the others. -/
  | parameter (detail : String)
  /-- The image is too large. -/
  | limits (e : Excess)
  /-- The image needs what is not there. -/
  | unsupported (u : Unsupported)
  /-- The bytes end early, or cannot be passed on. -/
  | io (detail : String)
  deriving DecidableEq, Repr

/-- The text for a limit that is exceeded. -/
def Excess.message : Excess → String
  | dimensions => "Image size exceeds limit"
  | memory => "Memory limit exceeded"

/-- The text for what is not supported. -/
def Unsupported.message : Unsupported → String
  | unknownFormat => "The image format could not be determined"
  | format f => "The image format " ++ f.label ++ " is not supported"
  | color f d =>
    "The decoder for " ++ f.label ++ " does not support the color type `" ++ d ++ "`"
  | feature f d =>
    "The decoder for " ++ f.label ++ " does not support the format features " ++ d

/-- A detail after a colon, if there is one. -/
def withDetail (text detail : String) : String :=
  if detail.isEmpty then text else text ++ ": " ++ detail

namespace ImageFault

/-- The text for a fault. -/
def message : ImageFault → String
  | decoding f d => withDetail ("Format error decoding " ++ f.label) d
  | encoding f d => withDetail ("Format error encoding " ++ f.label) d
  | parameter d => d
  | limits e => e.message
  | unsupported u => u.message
  | io d => d

/-- The bytes end before the image does. -/
def truncated : ImageFault :=
  io "unexpected end of file"

end ImageFault

end Cutout
