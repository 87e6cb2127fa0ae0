import Cutout.Yaml.Token.BlockScalar
import Cutout.Yaml.Token.Directive
import Cutout.Yaml.Token.FlowScalar

/-!
# Scanning

`scan` turns a text into tokens. What looks like a scalar may turn out to be the key of a mapping
when a colon follows on the same line, and then tokens are put in front of it afterwards. So tokens
are final only up to the first one that may still become a key, and when the grammar breaks only the
final ones are given out.
-/

namespace Cutout.Yaml

/-- A token that becomes the key of a mapping if a colon follows. -/
structure PossibleKey where
  /-- In a block, at the column of its entries, nothing but a key can stand. -/
  required : Bool
  /-- How many tokens precede it. -/
  index : Nat
  mark : Mark
  deriving DecidableEq, Repr

/-- A text that is being scanned. -/
structure Scanner where
  cursor : Cursor
  /-- The tokens so far, latest first. -/
  reversed : List Token
  /-- How many there are. -/
  count : Nat
  /-- The columns of the open block collections, innermost first. -/
  indents : List Nat
  /-- A key could begin here without a question mark. -/
  keyAllowed : Bool
  /-- What may become a key in the innermost flow collection, or in the block. -/
  key : Option PossibleKey
  /-- What may become a key in the collections around the innermost one. -/
  outerKeys : List (Option PossibleKey)

namespace Scanner

/-- The beginning of a text, with the token that stands for it. -/
def start (text : List Char) : Scanner :=
  let c := Cursor.start text
  ⟨c, [⟨.streamStart, c.mark, c.mark⟩], 1, [], true, none, []⟩

/-- A flow collection is open. -/
def inFlow (s : Scanner) : Bool :=
  !s.outerKeys.isEmpty

/-- Add a token and go on behind it. -/
def push (s : Scanner) (t : Token) (c : Cursor) : Scanner :=
  { s with cursor := c, reversed := t :: s.reversed, count := s.count + 1 }

/-- Add a token between two marks without moving. -/
def pushHere (s : Scanner) (k : TokenKind) (a b : Mark) : Scanner :=
  s.push ⟨k, a, b⟩ s.cursor

/-- Add the token that the next `n` characters are. -/
def pushNext (s : Scanner) (k : TokenKind) (n : Nat) : Scanner :=
  let d := s.cursor.skip n
  s.push ⟨k, s.cursor.mark, d.mark⟩ d

/-- Put a token in front of the one with index `i`. -/
def insert (s : Scanner) (i : Nat) (k : TokenKind) (m : Mark) : Scanner :=
  { s with
    reversed := s.reversed.insertIdx (s.count - i) ⟨k, m, m⟩
    count := s.count + 1 }

/-! ## Possible keys -/

/-- The fault of a required key without a colon. -/
def missingColon {α : Type} (s : Scanner) (k : PossibleKey) : Reading α :=
  s.cursor.breach .missingColon .simpleKey k.mark

/-- A key is on one line and at most 1024 characters long. -/
def outlived (s : Scanner) (k : PossibleKey) : Bool :=
  k.mark.line < s.cursor.mark.line || k.mark.index + 1024 < s.cursor.mark.index

/-- What is left of a possible key here. -/
def freshKey (s : Scanner) : Option PossibleKey → Reading (Option PossibleKey)
  | none => .ok none
  | some k =>
    if s.outlived k then (if k.required then s.missingColon k else .ok none) else .ok (some k)

/-- Drop the keys that have been outlived, those of the outer collections first. -/
def refresh (s : Scanner) : Reading Scanner := do
  let outer ← s.outerKeys.reverse.mapM s.freshKey
  let key ← s.freshKey s.key
  return { s with key := key, outerKeys := outer.reverse }

/-- Nothing of the innermost collection can become a key any more. -/
def dropKey (s : Scanner) : Reading Scanner :=
  match s.key with
  | some k => if k.required then s.missingColon k else .ok { s with key := none }
  | none => .ok s

/-- The next token may become a key, if a key is allowed here. -/
def noteKey (s : Scanner) : Reading Scanner :=
  if s.keyAllowed then do
    let required := !s.inFlow && s.indents.head? == some s.cursor.mark.column
    let s ← s.dropKey
    return { s with key := some ⟨required, s.count, s.cursor.mark⟩ }
  else .ok s

/-! ## Indentation -/

/-- Open a block collection in a column, unless one is open there: its token goes to index `at`, or
to the end. -/
def openBlock (s : Scanner) (k : TokenKind) (index : Nat) (m : Mark) : Scanner :=
  if s.inFlow || s.indents.head?.any (m.column ≤ ·) then s
  else { s.insert index k m with indents := m.column :: s.indents }

/-- Close the block collections in `open` that stand right of a column; all of them if there is
none. -/
def closeFrom (column : Option Nat) (s : Scanner) : List Nat → Scanner
  | [] => { s with indents := [] }
  | i :: rest =>
    if column.any (i ≤ ·) then { s with indents := i :: rest }
    else closeFrom column (s.pushHere .blockEnd s.cursor.mark s.cursor.mark) rest

/-- Close the block collections that stand right of a column. -/
def closeBlocks (s : Scanner) (column : Option Nat) : Scanner :=
  if s.inFlow then s else s.closeFrom column s.indents

/-! ## Single tokens -/

/-- Pass over spaces, comments and line ends. In a block a tab counts as a space only where no key
is allowed. -/
def toNextToken : (fuel : Nat) → Scanner → Scanner
  | 0, s => s
  | fuel + 1, s =>
    let tabs := s.inFlow || !s.keyAllowed
    let c := s.cursor.skipWhile fun x => x == ' ' || (tabs && x == '\t')
    let c := c.skipComment
    if c.atBreak then
      toNextToken fuel
        { s with cursor := c.lineBreak.2, keyAllowed := s.keyAllowed || !s.inFlow }
    else { s with cursor := c }

/-- The end of the text, which counts as the beginning of a line. -/
def streamEnd (s : Scanner) : Reading Scanner := do
  let m := s.cursor.mark
  let m := if m.column = 0 then m else ⟨m.index, m.line + 1, 0⟩
  let s ← ({ s with cursor := ⟨s.cursor.rest, m⟩ }.closeBlocks none).dropKey
  return { s with keyAllowed := false }.pushHere .streamEnd m m

/-- A directive. -/
def directive (s : Scanner) : Reading Scanner := do
  let s ← (s.closeBlocks none).dropKey
  let (t, c) ← s.cursor.directive
  return { s with keyAllowed := false }.push t c

/-- The line that begins or ends a document. -/
def documentMarker (k : TokenKind) (s : Scanner) : Reading Scanner := do
  let s ← (s.closeBlocks none).dropKey
  return { s with keyAllowed := false }.pushNext k 3

/-- The beginning of a flow collection. -/
def flowStart (k : TokenKind) (s : Scanner) : Reading Scanner := do
  let s ← s.noteKey
  return { s with key := none, outerKeys := s.key :: s.outerKeys, keyAllowed := true }.pushNext k 1

/-- The end of a flow collection, or what looks like one. -/
def flowEnd (k : TokenKind) (s : Scanner) : Reading Scanner := do
  let s ← s.dropKey
  let s := { s with keyAllowed := false }
  let s :=
    match s.outerKeys with
    | [] => s
    | o :: outer => { s with key := o, outerKeys := outer }
  return s.pushNext k 1

/-- The comma between the entries of a flow collection. -/
def flowEntry (s : Scanner) : Reading Scanner := do
  let s ← s.dropKey
  return { s with keyAllowed := true }.pushNext .flowEntry 1

/-- In a block, an indicator that opens an entry stands only where a key could. -/
def openEntry (s : Scanner) (k : TokenKind) (b : Breach) : Reading Scanner :=
  if s.inFlow then .ok s
  else if !s.keyAllowed then .error ⟨b, s.cursor.mark, none⟩
  else .ok (s.openBlock k s.count s.cursor.mark)

/-- The hyphen before an entry of a block sequence. -/
def blockEntry (s : Scanner) : Reading Scanner := do
  let s ← s.openEntry .blockSequenceStart .entryNotAllowed
  let s ← s.dropKey
  return { s with keyAllowed := true }.pushNext .blockEntry 1

/-- The question mark before a key. -/
def keyMark (s : Scanner) : Reading Scanner := do
  let s ← s.openEntry .blockMappingStart .keyNotAllowed
  let s ← s.dropKey
  return { s with keyAllowed := !s.inFlow }.pushNext .key 1

/-- The colon before a value. What stands before it on the same line is its key. -/
def valueMark (s : Scanner) : Reading Scanner :=
  match s.key with
  | some k =>
    let s := (s.insert k.index .key k.mark).openBlock .blockMappingStart k.index k.mark
    .ok ({ s with key := none, keyAllowed := false }.pushNext .value 1)
  | none => do
    let s ← s.openEntry .blockMappingStart .valueNotAllowed
    return { s with keyAllowed := !s.inFlow }.pushNext .value 1

/-- A token that can be a key or begin one. -/
def keyLike (read : Cursor → Reading (Token × Cursor)) (s : Scanner) : Reading Scanner := do
  let s ← s.noteKey
  let (t, c) ← read s.cursor
  return { s with keyAllowed := false }.push t c

/-- A block scalar. -/
def blockScalar (literal : Bool) (s : Scanner) : Reading Scanner := do
  let s ← s.dropKey
  let (t, c) ← s.cursor.blockScalar literal s.indents.head?
  return { s with keyAllowed := true }.push t c

/-- A plain scalar. A key is allowed behind it only on a later line. -/
def plainScalar (s : Scanner) : Reading Scanner := do
  let s ← s.noteKey
  let (t, broken, c) ← s.cursor.plainScalar s.inFlow (s.indents.head?.elim 0 (· + 1))
  return { s with keyAllowed := broken }.push t c

/-- A character that no plain scalar begins with. -/
def isIndicator (x : Char) : Bool :=
  "-?:,[]\x7b\x7d#&*!|>'\"%@`".toList.contains x

/-- A plain scalar begins with this character. -/
def startsPlain (s : Scanner) (x : Char) : Bool :=
  let c := s.cursor
  !(c.gapAhead 0 || isIndicator x) || (x == '-' && !(c.ahead 1).any isSpace) ||
    (!s.inFlow && (x == '?' || x == ':') && !c.gapAhead 1)

/-- The token that begins with this character. -/
def tokenAt (x : Char) (s : Scanner) : Reading Scanner :=
  let c := s.cursor
  let spaced := s.inFlow || c.gapAhead 1
  -- whole lines
  if c.mark.column = 0 && x == '%' then s.directive
  else if c.atMarker '-' then s.documentMarker .documentStart
  else if c.atMarker '.' then s.documentMarker .documentEnd
  -- flow collections
  else if x == '[' then s.flowStart .flowSequenceStart
  else if x == '\x7b' then s.flowStart .flowMappingStart
  else if x == ']' then s.flowEnd .flowSequenceEnd
  else if x == '\x7d' then s.flowEnd .flowMappingEnd
  else if x == ',' then s.flowEntry
  -- indicators that a gap has to follow
  else if x == '-' && c.gapAhead 1 then s.blockEntry
  else if x == '?' && spaced then s.keyMark
  else if x == ':' && spaced then s.valueMark
  -- what a node is made of
  else if x == '*' then s.keyLike Cursor.reference
  else if x == '&' then s.keyLike Cursor.anchor
  else if x == '!' then s.keyLike fun c => c.tag s.inFlow
  else if x == '|' && !s.inFlow then s.blockScalar true
  else if x == '>' && !s.inFlow then s.blockScalar false
  else if x == '\'' then s.keyLike (Cursor.quotedScalar true)
  else if x == '"' then s.keyLike (Cursor.quotedScalar false)
  else if s.startsPlain x then s.plainScalar
  else c.breach .noTokenStart .nextToken c.mark

/-- Read one more token, with the tokens that indentation and keys bring along. -/
def step (s : Scanner) : Reading Scanner := do
  let s := s.toNextToken (s.cursor.rest.length + 1)
  let s ← s.refresh
  -- a line further left closes what it is not part of
  let s := s.closeBlocks (some s.cursor.mark.column)
  match s.cursor.peek with
  | none => s.streamEnd
  | some x => (s.tokenAt x).bind refresh

/-- The number of tokens in front of everything that may still become a key. -/
def final (s : Scanner) : Nat :=
  ((s.key :: s.outerKeys).filterMap id).foldl (fun n k => min n k.index) s.count

end Scanner

/-- The tokens of a text, and where its grammar breaks if it does. -/
structure Scan where
  tokens : List Token
  fault : Option GrammarFault
  deriving DecidableEq, Repr

/-- Scan the rest of a text. -/
def Scanner.finish : (fuel : Nat) → Scanner → Scan
  | 0, s => ⟨s.reversed.reverse, none⟩
  | fuel + 1, s =>
    match s.step with
    | .error f => ⟨s.reversed.reverse.take s.final, some f⟩
    | .ok t => if t.cursor.atEnd && t.reversed.head?.any (·.kind == .streamEnd) then
        ⟨t.reversed.reverse, none⟩
      else t.finish fuel

/-- Scan a text. -/
def scan (text : List Char) : Scan :=
  (Scanner.start text).finish (text.length + 2)

end Cutout.Yaml
