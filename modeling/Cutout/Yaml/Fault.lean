import Cutout.Text.Quoted
import Cutout.Yaml.Cursor

/-!
# What can be wrong with a YAML text

Faults come from four sides: characters that no text may hold, broken grammar, values that do not
fit the record that is read, and references to nothing. A message names the place, except for the
very beginning of the text.
-/

namespace Cutout.Yaml

/-- What was being read when the grammar broke. -/
inductive Activity where
  | nextToken | simpleKey | directive | yamlDirective | tagDirective | tagDirectiveHandle
  | tagDirectiveLine | tagDirectiveUri | tag | tagValue | anchor | aliasName | blockScalar | quotedScalar
  | quotedEscape | plainScalar | node | blockNode | flowNode | blockCollection | blockMapping
  | flowSequence | flowMapping
  deriving DecidableEq, Repr

/-- How a message says what was being read. -/
def Activity.text : Activity → String
  | nextToken => "while scanning for the next token"
  | simpleKey => "while scanning a simple key"
  | directive => "while scanning a directive"
  | yamlDirective => "while scanning a %YAML directive"
  | tagDirective => "while scanning a tag directive"
  | tagDirectiveHandle => "while parsing a tag directive"
  | tagDirectiveLine => "while scanning a %TAG directive"
  | tagDirectiveUri => "while parsing a %TAG directive"
  | tag => "while scanning a tag"
  | tagValue => "while parsing a tag"
  | anchor => "while scanning an anchor"
  | aliasName => "while scanning an alias"
  | blockScalar => "while scanning a block scalar"
  | quotedScalar => "while scanning a quoted scalar"
  | quotedEscape => "while parsing a quoted scalar"
  | plainScalar => "while scanning a plain scalar"
  | node => "while parsing a node"
  | blockNode => "while parsing a block node"
  | flowNode => "while parsing a flow node"
  | blockCollection => "while parsing a block collection"
  | blockMapping => "while parsing a block mapping"
  | flowSequence => "while parsing a flow sequence"
  | flowMapping => "while parsing a flow mapping"

/-- How the grammar can break. -/
inductive Breach where
  | noTokenStart | missingColon | entryNotAllowed | keyNotAllowed | valueNotAllowed
  | unknownDirective | missingDirectiveName | directiveNameEnd | missingCommentOrBreak
  | missingVersionNumber | versionTooLong | missingVersionDot | missingSpace
  | missingSpaceOrBreak | missingExclamation | missingTagUri | missingUriOctet
  | badLeadingOctet | badTrailingOctet | missingTagEnd | missingName | zeroIndent | tabIndent
  | documentMarkerInScalar | endInScalar | unknownEscape | missingHexDigit | badCodePoint
  | colonInPlain | tabInPlain | missingStreamStart | missingDocumentStart | undefinedHandle
  | missingNode | missingDash | missingKey | missingSequenceEnd | missingMappingEnd
  | duplicateVersion | wrongVersion | duplicateHandle
  deriving DecidableEq, Repr

/-- The text for a breach. -/
def Breach.text : Breach → String
  | noTokenStart => "found character that cannot start any token"
  | missingColon => "could not find expected ':'"
  | entryNotAllowed => "block sequence entries are not allowed in this context"
  | keyNotAllowed => "mapping keys are not allowed in this context"
  | valueNotAllowed => "mapping values are not allowed in this context"
  | unknownDirective => "found unknown directive name"
  | missingDirectiveName => "could not find expected directive name"
  | directiveNameEnd => "found unexpected non-alphabetical character"
  | missingCommentOrBreak => "did not find expected comment or line break"
  | missingVersionNumber => "did not find expected version number"
  | versionTooLong => "found extremely long version number"
  | missingVersionDot => "did not find expected digit or '.' character"
  | missingSpace => "did not find expected whitespace"
  | missingSpaceOrBreak => "did not find expected whitespace or line break"
  | missingExclamation => "did not find expected '!'"
  | missingTagUri => "did not find expected tag URI"
  | missingUriOctet => "did not find URI escaped octet"
  | badLeadingOctet => "found an incorrect leading UTF-8 octet"
  | badTrailingOctet => "found an incorrect trailing UTF-8 octet"
  | missingTagEnd => "did not find the expected '>'"
  | missingName => "did not find expected alphabetic or numeric character"
  | zeroIndent => "found an indentation indicator equal to 0"
  | tabIndent => "found a tab character where an indentation space is expected"
  | documentMarkerInScalar => "found unexpected document indicator"
  | endInScalar => "found unexpected end of stream"
  | unknownEscape => "found unknown escape character"
  | missingHexDigit => "did not find expected hexdecimal number"
  | badCodePoint => "found invalid Unicode character escape code"
  | colonInPlain => "found unexpected ':'"
  | tabInPlain => "found a tab character that violates indentation"
  | missingStreamStart => "did not find expected <stream-start>"
  | missingDocumentStart => "did not find expected <document start>"
  | undefinedHandle => "found undefined tag handle"
  | missingNode => "did not find expected node content"
  | missingDash => "did not find expected '-' indicator"
  | missingKey => "did not find expected key"
  | missingSequenceEnd => "did not find expected ',' or ']'"
  | missingMappingEnd => "did not find expected ',' or '\x7d'"
  | duplicateVersion => "found duplicate %YAML directive"
  | wrongVersion => "found incompatible YAML document"
  | duplicateHandle => "found duplicate %TAG directive"

/-- Broken grammar: what is wrong and where, and what was being read since where. -/
structure GrammarFault where
  breach : Breach
  place : Mark
  activity : Option (Activity × Mark)
  deriving DecidableEq, Repr

/-- The text for broken grammar. The beginning of what was being read is named only if it is
another place than the breach. -/
def GrammarFault.message (f : GrammarFault) : String :=
  f.breach.text ++ (if f.place.isOrigin then "" else " at " ++ f.place.text) ++
    match f.activity with
    | none => ""
    | some (a, since) =>
      ", " ++ a.text ++
        if since.isOrigin || since.sameSpot f.place then "" else " at " ++ since.text

/-- A value as the message about a misfit shows it. -/
inductive Found where
  | nothing
  | boolean (b : Bool)
  | integer (n : Int)
  /-- An integer past the widest word, with the name of the type that holds it. -/
  | wideInteger (n : Int) (type : String)
  /-- A number, already written out. -/
  | float (digits : String)
  | text (s : String)
  | sequence
  | mapping
  deriving DecidableEq, Repr

/-- How a message shows a value. -/
def Found.phrase : Found → String
  | nothing => "unit value"
  | boolean b => "boolean `" ++ (if b then "true" else "false") ++ "`"
  | integer n => "integer `" ++ toString n ++ "`"
  | wideInteger n t => "integer `" ++ toString n ++ "` as " ++ t
  | float d => "floating point `" ++ d ++ "`"
  | text s => "string " ++ Text.quoted s
  | sequence => "sequence"
  | mapping => "map"

/-- How a value fails to fit the record that is read. -/
inductive Misfit where
  /-- A value of another kind than expected. -/
  | kind (found : Found) (expected : String)
  /-- A value of the expected kind that is out of range. -/
  | value (found : Found) (expected : String)
  /-- A key that the mapping has already. -/
  | duplicate (key : String)
  deriving DecidableEq, Repr

/-- The text for a misfit. -/
def Misfit.text : Misfit → String
  | kind f e => "invalid type: " ++ f.phrase ++ ", expected " ++ e
  | value f e => "invalid value: " ++ f.phrase ++ ", expected " ++ e
  | duplicate k => "duplicate field `" ++ k ++ "`"

/-- The keys that lead from the top of a document to a value, outermost first. A key that is itself
a reference has no name. -/
abbrev Path := List (Option String)

/-- How a message names a path. -/
def Path.text (p : Path) : String :=
  ".".intercalate (p.map fun k => k.getD "?")

/-- What can be wrong with a YAML text. -/
inductive Fault where
  /-- A character that no text may hold, after so many bytes. -/
  | control (offset : Nat)
  | grammar (f : GrammarFault)
  /-- A value that does not fit, where it was found. -/
  | misfit (m : Misfit) (path : Path) (place : Mark)
  /-- A reference to nothing. -/
  | unknownAnchor (place : Mark)
  | endOfText
  | moreDocuments
  deriving DecidableEq, Repr

/-- The end of a message that names a place. -/
def Mark.suffix (m : Mark) : String :=
  if m.isOrigin then "" else " at " ++ m.text

/-- The text for a fault. -/
def Fault.message : Fault → String
  | control n =>
    "control characters are not allowed" ++
      if n = 0 then "" else " at position " ++ toString n
  | grammar f => f.message
  | misfit m p place =>
    (if p.isEmpty then "" else Path.text p ++ ": ") ++ m.text ++ place.suffix
  | unknownAnchor place => "unknown anchor" ++ place.suffix
  | endOfText => "EOF while parsing a value"
  | moreDocuments =>
    "deserializing from YAML containing more than one document is not supported"

end Cutout.Yaml
