import Cutout.Bytes
import Cutout.Text.Number
import Cutout.Yaml.Fault

/-!
# Tokens

The words of a YAML text. Indentation becomes tokens too: a block collection is opened where its
first entry stands further right than what surrounds it, and closed where a line stands further
left.
-/

namespace Cutout.Yaml

/-- How a scalar is written. -/
inductive ScalarStyle where
  | plain | singleQuoted | doubleQuoted | literal | folded
  deriving DecidableEq, Repr

/-- What a token is. -/
inductive TokenKind where
  | streamStart | streamEnd
  | version (major minor : Nat)
  | handle (name lead : Bytes)
  | documentStart | documentEnd
  | blockSequenceStart | blockMappingStart | blockEnd
  | flowSequenceStart | flowSequenceEnd | flowMappingStart | flowMappingEnd
  | blockEntry | flowEntry | key | value
  | reference (name : List Char)
  | anchor (name : List Char)
  | tag (handle suffix : Bytes)
  | scalar (text : List Char) (style : ScalarStyle)
  deriving DecidableEq, Repr

/-- A token, with where it begins and where it stops. -/
structure Token where
  kind : TokenKind
  start : Mark
  stop : Mark
  deriving DecidableEq, Repr

/-- The tag that is an exclamation mark alone. -/
def exclamation : Bytes :=
  [0x21]

/-- The outcome of reading something that broken grammar can spoil. -/
abbrev Reading := Except GrammarFault

/-- Broken grammar at a cursor, while something was being read since a mark. -/
def Cursor.breach {α : Type} (c : Cursor) (b : Breach) (a : Activity) (since : Mark) : Reading α :=
  .error ⟨b, c.mark, some (a, since)⟩

end Cutout.Yaml
