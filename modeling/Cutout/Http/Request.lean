import Cutout.Http.Header
import Cutout.Http.Target
import Cutout.Text.Number

/-!
# Requests

A request has a method, a target, headers and a body. The body arrives in pieces. Between two of them
there can be time in which its reader has to wait, and instead of a piece the connection can fail. A
header can declare the length of the body in advance.
-/

namespace Cutout.Http

/-- What becomes of a body while it is read. -/
inductive Piece where
  | data (b : Bytes)
  /-- Nothing more has arrived yet. The reader goes as far as it can with what it has. -/
  | wait
  /-- The connection fails. -/
  | failure
  deriving DecidableEq, Repr

/-- A request. -/
structure Request where
  method : String
  target : Target
  headers : List Header
  body : List Piece
  deriving DecidableEq, Repr

/-- The length that the first header for it declares, if it is a number of 64 bits. -/
def Request.declaredLength? (r : Request) : Option Nat := do
  let value ← first? r.headers "content-length"
  Text.natural? 64 (← visible? value)

end Cutout.Http
