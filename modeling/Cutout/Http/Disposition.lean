import Cutout.Text.Utf8

/-!
# Content dispositions

The disposition of a part names the form field and, for files, the file. An attribute is found by
searching for its name; the name counts if it does not continue a longer word. Its value is
text between double quotes, where a backslash keeps a quote from ending it, or goes up to a semicolon
or a space.
-/

namespace Cutout.Http.Disposition

/-- White space of ASCII. -/
def isSpace (x : UInt8) : Bool :=
  x == 32 || x == 9 || x == 10 || x == 12 || x == 13

/-- The byte can stand in front of an attribute. -/
def precedes (x : UInt8) : Bool :=
  isSpace x || x == 59

/-- Text between quotes, whose opening one has been read: `reversed` is what it begins with, latest
first. -/
def quotedFrom : (reversed : Bytes) → Bytes → Option Bytes
  | _, [] => none
  | reversed, 92 :: 34 :: b => quotedFrom (34 :: reversed) b
  | reversed, 34 :: _ => some reversed.reverse
  | reversed, x :: b => quotedFrom (x :: reversed) b

/-- The value behind the name of an attribute, if an equals sign follows the name. -/
def valueAfter (b : Bytes) : Option Bytes :=
  match b.dropWhile isSpace with
  | 61 :: r =>
    match r.dropWhile isSpace with
    | 34 :: r => quotedFrom [] r
    | r => some (r.takeWhile fun x => x != 59 && x != 32)
  | _ => none

/-- Search for an attribute. The beginning of what is searched counts as the beginning of a word. -/
def find (name : Bytes) : (fuel : Nat) → Bytes → Option Bytes
  | 0, _ => none
  | fuel + 1, b =>
    match Bytes.cut? name b with
    | none => none
    | some (before, after) =>
      match before.getLast? with
      | none => valueAfter after
      | some x => if precedes x then valueAfter after else find name fuel after

/-- The text of an attribute, if it is UTF-8. -/
def attribute? (name : String) (b : Bytes) : Option String :=
  (find (Bytes.ofAscii name) (b.length + 1) b).bind Text.ofUtf8?

end Cutout.Http.Disposition
