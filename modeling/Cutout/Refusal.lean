import Cutout.Container
import Cutout.Http.Response
import Cutout.Text.Json

/-!
# Refusals

Why a request is not answered with a result. Each reason has a status and a text, and is answered
with an object that holds the text.
-/

namespace Cutout

/-- Why a request is refused. -/
inductive Refusal where
  | missingFile
  | emptyFileName
  | unknownContainer (u : Container.Unknown)
  /-- The body cannot be read. -/
  | malformed (detail : String)
  | tooLarge
  /-- There is no cutter yet. -/
  | loading
  /-- Cutting out went wrong. -/
  | failed (detail : String)
  /-- Something else went wrong. -/
  | internal
  deriving DecidableEq, Repr

namespace Refusal

/-- The status of a refusal. -/
def status : Refusal → Nat
  | missingFile | emptyFileName | unknownContainer _ | malformed _ => 400
  | tooLarge => 413
  | loading => 503
  | failed _ | internal => 500

/-- The text of a refusal. -/
def message : Refusal → String
  | missingFile => "No file provided. Use field name 'file'."
  | emptyFileName => "Empty filename."
  | unknownContainer u => u.message
  | malformed d => "Malformed upload: " ++ d
  | tooLarge => "File too large."
  | loading => "Model is still loading."
  | failed d => "Processing failed: " ++ d
  | internal => "Internal server error."

/-- The refusal is the fault of the client. -/
def isClientError (r : Refusal) : Bool :=
  400 ≤ r.status && r.status < 500

/-- The answer to a refused request. -/
def response (r : Refusal) : Http.Response :=
  .json r.status (Json.object [("error", r.message)])

end Refusal

end Cutout
