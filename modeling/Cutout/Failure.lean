import Cutout.Address
import Cutout.Image.Fault
import Cutout.Yaml.Fault

/-!
# Failures

Everything that can go wrong outside of answering a request, by cause.
-/

namespace Cutout

/-- What went wrong. -/
inductive Failure where
  /-- The settings cannot be used. -/
  | settings (detail : String)
  /-- An image cannot be read or written. -/
  | image (f : ImageFault)
  /-- The result cannot be put into the format that was asked for. -/
  | encoding (detail : String)
  /-- The model gives no usable answer. -/
  | inference (detail : String)
  /-- There is a cutter in place already. -/
  | alreadyLoaded (model : String)
  /-- The settings cannot be read. -/
  | yaml (f : Yaml.Fault)
  /-- The system refuses. -/
  | io (detail : String)
  /-- An address cannot be read. -/
  | address (f : AddressFault)
  /-- A mistake of the program. -/
  | internal (detail : String)
  deriving DecidableEq, Repr

namespace Failure

/-- The text for a failure. -/
def message : Failure → String
  | settings d => "Configuration error: " ++ d
  | image f => "Image error: " ++ f.message
  | encoding d => "Encoding error: " ++ d
  | inference d => "Inference error: " ++ d
  | alreadyLoaded m => "Model already loaded: " ++ m
  | yaml f => "YAML error: " ++ f.message
  | io d => "IO error: " ++ d
  | address f => "Address parse error: " ++ f.message
  | internal d => "Internal error: " ++ d

end Failure

end Cutout
