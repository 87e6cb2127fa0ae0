/-!
# A place in a YAML text

A cursor is the rest of a text together with the mark of where it begins. Marks count characters,
lines and columns from zero. A line ends with a carriage return, a line feed, both in this order, or
one of the three Unicode line ends; the first four are read as a line feed, and the other two as
themselves.
-/

namespace Cutout.Yaml

/-- A position in a text: characters from the beginning, lines above, and characters to the left. -/
structure Mark where
  index : Nat
  line : Nat
  column : Nat
  deriving DecidableEq, Repr

/-- The beginning of a text. -/
def Mark.origin : Mark :=
  ⟨0, 0, 0⟩

/-- The same place up to the count of characters. -/
def Mark.sameSpot (a b : Mark) : Bool :=
  a.line == b.line && a.column == b.column

/-- How a message names a place: lines and columns from one. -/
def Mark.text (m : Mark) : String :=
  "line " ++ toString (m.line + 1) ++ " column " ++ toString (m.column + 1)

/-- The place is the beginning of the text, which messages do not name. -/
def Mark.isOrigin (m : Mark) : Bool :=
  m.sameSpot Mark.origin

/-- The characters that end a line. -/
def isBreak (c : Char) : Bool :=
  c == '\r' || c == '\n' || c == '\u0085' || c == '\u2028' || c == '\u2029'

/-- A space or a tab. -/
def isSpace (c : Char) : Bool :=
  c == ' ' || c == '\t'

/-- A letter, a digit, a hyphen or an underscore. -/
def isWordChar (c : Char) : Bool :=
  c.isAlphanum || c == '-' || c == '_'

/-- The rest of a text and where it begins. -/
structure Cursor where
  rest : List Char
  mark : Mark
  deriving DecidableEq, Repr

namespace Cursor

/-- The cursor at the beginning of a text. -/
def start (text : List Char) : Cursor :=
  ⟨text, Mark.origin⟩

/-- The character `n` places ahead; none behind the end. -/
def ahead (c : Cursor) (n : Nat) : Option Char :=
  c.rest[n]?

/-- The next character. -/
def peek (c : Cursor) : Option Char :=
  c.ahead 0

/-- The character `n` places ahead is `x`. -/
def sees (c : Cursor) (n : Nat) (x : Char) : Bool :=
  c.ahead n == some x

/-- The text is used up. -/
def atEnd (c : Cursor) : Bool :=
  c.rest.isEmpty

/-- The character `n` places ahead is a space, a tab, a line end or the end of the text. -/
def gapAhead (c : Cursor) (n : Nat) : Bool :=
  match c.ahead n with
  | none => true
  | some x => isSpace x || isBreak x

/-- The next character is a space or a tab. -/
def atSpace (c : Cursor) : Bool :=
  c.peek.any isSpace

/-- The line ends here. -/
def atBreak (c : Cursor) : Bool :=
  c.peek.any isBreak

/-- The line or the text ends here. -/
def atLineEnd (c : Cursor) : Bool :=
  match c.peek with
  | none => true
  | some x => isBreak x

/-- Pass over `n` characters of the same line. -/
def skip (c : Cursor) (n : Nat) : Cursor :=
  let k := min n c.rest.length
  ⟨c.rest.drop k, ⟨c.mark.index + k, c.mark.line, c.mark.column + k⟩⟩

/-- Pass over the characters of a class that holds no line end: what they are, and where they
stop. -/
def span (p : Char → Bool) (c : Cursor) : List Char × Cursor :=
  let run := c.rest.takeWhile p
  (run, ⟨c.rest.dropWhile p,
    ⟨c.mark.index + run.length, c.mark.line, c.mark.column + run.length⟩⟩)

/-- Pass over the characters of a class that holds no line end. -/
def skipWhile (p : Char → Bool) (c : Cursor) : Cursor :=
  (c.span p).2

/-- Pass over the rest of the line, up to its end. -/
def skipLine (c : Cursor) : Cursor :=
  c.skipWhile fun x => !isBreak x

/-- Pass over a comment, if one begins here. -/
def skipComment (c : Cursor) : Cursor :=
  if c.sees 0 '#' then c.skipLine else c

/-- Go to the beginning of the next line, `n` characters ahead. -/
def nextLine (c : Cursor) (n : Nat) : Cursor :=
  ⟨c.rest.drop n, ⟨c.mark.index + n, c.mark.line + 1, 0⟩⟩

/-- Pass over a line end, and say how it reads. Nothing happens where the line goes on. -/
def lineBreak (c : Cursor) : List Char × Cursor :=
  match c.rest with
  | '\r' :: '\n' :: _ => (['\n'], c.nextLine 2)
  | x :: _ =>
    if x == '\u2028' || x == '\u2029' then ([x], c.nextLine 1)
    else if isBreak x then (['\n'], c.nextLine 1)
    else ([], c)
  | [] => ([], c)

/-- Three equal characters at the beginning of a line, followed by a gap. -/
def atMarker (c : Cursor) (x : Char) : Bool :=
  c.mark.column == 0 && c.sees 0 x && c.sees 1 x && c.sees 2 x && c.gapAhead 3

/-- A line that begins or ends a document. -/
def atDocumentMarker (c : Cursor) : Bool :=
  c.atMarker '-' || c.atMarker '.'

end Cursor

end Cutout.Yaml
