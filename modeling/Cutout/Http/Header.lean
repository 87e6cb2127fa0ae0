import Cutout.Bytes
import Cutout.Text.Lower

/-!
# Headers

A header has a name, which is compared without regard to letter case, and a value, which is a byte
string. Some values are only looked at if they are visible ASCII.
-/

namespace Cutout.Http

/-- A header. -/
structure Header where
  name : String
  value : Bytes
  deriving DecidableEq, Repr

/-- The value of the first header with a name, which is given in lowercase. -/
def first? (headers : List Header) (name : String) : Option Bytes :=
  (headers.find? fun h => Text.asciiLower h.name == name).map Header.value

/-- A character that a visible value can have. -/
def isVisible (x : UInt8) : Bool :=
  x == 9 || (32 ≤ x && x < 127)

/-- The text of a value, if it is visible. -/
def visible? (value : Bytes) : Option (List Char) :=
  if value.all isVisible then some (value.map fun x => Char.ofNat x.toNat) else none

/-- A character of a token. -/
def isToken (c : Char) : Bool :=
  c.isAlphanum || "!#$%&'*+-.^_\x60|~".toList.contains c

end Cutout.Http
