import Cutout.Yaml.Token

/-!
# Quoted and plain scalars

A scalar that runs over several lines is folded: a single line end between two words reads as a
space, and of several the first is dropped.
-/

namespace Cutout.Yaml

/-! ## What stands between two words -/

/-- Spaces and line ends between two words: the spaces on the first line, the first line end, and
the line ends after it. -/
structure Gap where
  spaces : List Char
  first : List Char
  more : List Char
  /-- A line end has been passed. -/
  broken : Bool
  deriving DecidableEq, Repr

/-- Nothing. -/
def Gap.empty : Gap :=
  ⟨[], [], [], false⟩

/-- How a gap reads. -/
def Gap.text (g : Gap) : List Char :=
  if !g.broken then g.spaces
  else if g.first.head? == some '\n' then (if g.more.isEmpty then [' '] else g.more)
  else g.first ++ g.more

/-- Read on in a gap. A tab left of column `floor` on a later line is refused. -/
def Gap.readFrom (floor : Nat) (since : Mark) : (fuel : Nat) → Gap → Cursor → Reading (Gap × Cursor)
  | 0, g, c => .ok (g, c)
  | fuel + 1, g, c =>
    if c.atSpace then
      if g.broken && c.mark.column < floor && c.sees 0 '\t' then
        c.breach .tabInPlain .plainScalar since
      else if g.broken then readFrom floor since fuel g (c.skip 1)
      else readFrom floor since fuel { g with spaces := g.spaces ++ c.peek.toList } (c.skip 1)
    else if c.atBreak then
      let (b, d) := c.lineBreak
      if g.broken then readFrom floor since fuel { g with more := g.more ++ b } d
      else readFrom floor since fuel { g with spaces := [], first := b, broken := true } d
    else .ok (g, c)

/-- Read the rest of a gap. -/
def Gap.read (g : Gap) (floor : Nat) (since : Mark) (c : Cursor) : Reading (Gap × Cursor) :=
  g.readFrom floor since (c.rest.length + 1) c

namespace Cursor

/-! ## Quoted scalars -/

/-- The character that a backslash and this letter stand for. -/
def escaped? : Char → Option Char
  | '0' => some '\x00'
  | 'a' => some '\x07'
  | 'b' => some '\x08'
  | 't' => some '\t'
  | '\t' => some '\t'
  | 'n' => some '\n'
  | 'v' => some '\x0b'
  | 'f' => some '\x0c'
  | 'r' => some '\r'
  | 'e' => some '\x1b'
  | ' ' => some ' '
  | '"' => some '"'
  | '/' => some '/'
  | '\\' => some '\\'
  | 'N' => some '\u0085'
  | '_' => some '\u00a0'
  | 'L' => some '\u2028'
  | 'P' => some '\u2029'
  | _ => none

/-- How many hexadecimal digits follow a backslash and this letter. -/
def escapeWidth? : Char → Option Nat
  | 'x' => some 2
  | 'u' => some 4
  | 'U' => some 8
  | _ => none

/-- The value of the next `n` hexadecimal digits. -/
def hexNumber? (n : Nat) (c : Cursor) : Option Nat :=
  let ds := c.rest.take n
  if ds.length < n then none
  else ds.foldl (fun v d => do return 16 * (← v) + (← Text.digit? 16 d)) (some 0)

/-- The character that an escape in double quotes stands for, and the cursor behind it. -/
def escape (since : Mark) (c : Cursor) : Reading (Char × Cursor) :=
  match c.ahead 1 with
  | none => c.breach .unknownEscape .quotedEscape since
  | some x =>
    match escaped? x, escapeWidth? x with
    | some y, _ => .ok (y, c.skip 2)
    | none, none => c.breach .unknownEscape .quotedEscape since
    | none, some n =>
      let d := c.skip 2
      match d.hexNumber? n with
      | none => d.breach .missingHexDigit .quotedEscape since
      | some v =>
        if (0xD800 ≤ v && v ≤ 0xDFFF) || 0x10FFFF < v then
          d.breach .badCodePoint .quotedEscape since
        else .ok (Char.ofNat v, d.skip n)

/-- The quotation mark of a style. -/
def quoteMark (single : Bool) : Char :=
  if single then '\'' else '"'

/-- One word of a quoted scalar: up to a gap or the closing mark. In double quotes a backslash
before a line end hides it, which begins a gap that counts as broken. -/
def quotedWord (single : Bool) (since : Mark) :
    (fuel : Nat) → Cursor → Reading (List Char × Bool × Cursor)
  | 0, c => .ok ([], false, c)
  | fuel + 1, c =>
    match c.peek with
    | none => .ok ([], false, c)
    | some x =>
      if c.gapAhead 0 then .ok ([], false, c)
      else if single && x == '\'' && c.sees 1 '\'' then do
        let (w, h, d) ← quotedWord single since fuel (c.skip 2)
        return ('\'' :: w, h, d)
      else if x == quoteMark single then .ok ([], false, c)
      else if !single && x == '\\' && (c.ahead 1).any isBreak then
        .ok ([], true, (c.skip 1).lineBreak.2)
      else if !single && x == '\\' then do
        let (y, d) ← c.escape since
        let (w, h, d) ← quotedWord single since fuel d
        return (y :: w, h, d)
      else do
        let (w, h, d) ← quotedWord single since fuel (c.skip 1)
        return (x :: w, h, d)

/-- The text of a quoted scalar from here to its closing mark, which is passed. -/
def quotedFrom (single : Bool) (since : Mark) :
    (fuel : Nat) → Cursor → Reading (List Char × Cursor)
  | 0, c => c.breach .endInScalar .quotedScalar since
  | fuel + 1, c =>
    if c.atDocumentMarker then c.breach .documentMarkerInScalar .quotedScalar since
    else if c.atEnd then c.breach .endInScalar .quotedScalar since
    else do
      let (w, hidden, d) ← c.quotedWord single since (c.rest.length + 1)
      if d.sees 0 (quoteMark single) then return (w, d.skip 1)
      else
        let (g, d) ← ({ Gap.empty with broken := hidden } : Gap).read 0 since d
        let (t, d) ← quotedFrom single since fuel d
        return (w ++ g.text ++ t, d)

/-- A quoted scalar. -/
def quotedScalar (single : Bool) (c : Cursor) : Reading (Token × Cursor) := do
  let (t, d) ← (c.skip 1).quotedFrom single c.mark (c.rest.length + 1)
  let style := if single then ScalarStyle.singleQuoted else ScalarStyle.doubleQuoted
  return (⟨.scalar t style, c.mark, d.mark⟩, d)

/-! ## Plain scalars -/

/-- A character that belongs to flow collections. -/
def isFlowIndicator (x : Char) : Bool :=
  x == ',' || x == '[' || x == ']' || x == '\x7b' || x == '\x7d'

/-- One word of a plain scalar: up to a gap or an indicator. -/
def plainWord (inFlow : Bool) (since : Mark) :
    (fuel : Nat) → Cursor → Reading (List Char × Cursor)
  | 0, c => .ok ([], c)
  | fuel + 1, c =>
    match c.peek with
    | none => .ok ([], c)
    | some x =>
      if c.gapAhead 0 then .ok ([], c)
      else if inFlow && x == ':' && (c.ahead 1).any (fun y => y == '?' || isFlowIndicator y) then
        c.breach .colonInPlain .plainScalar since
      else if (x == ':' && c.gapAhead 1) || (inFlow && isFlowIndicator x) then .ok ([], c)
      else do
        let (w, d) ← plainWord inFlow since fuel (c.skip 1)
        return (x :: w, d)

/-- A plain scalar as far as it has been read. -/
structure PlainRun where
  text : List Char
  /-- Where the last word stops. -/
  stop : Mark
  /-- The gap behind the last word holds a line end. -/
  broken : Bool
  deriving DecidableEq, Repr

/-- The words of a plain scalar from here on, where `gap` follows what has been read before. On
later lines they stand at column `floor` or further right, except in flow collections. -/
def plainFrom (inFlow : Bool) (floor : Nat) (since : Mark) :
    (fuel : Nat) → Gap → PlainRun → Cursor → Reading (PlainRun × Cursor)
  | 0, _, r, c => .ok (r, c)
  | fuel + 1, g, r, c =>
    if c.atDocumentMarker || c.sees 0 '#' then .ok ({ r with broken := g.broken }, c)
    else do
      let (w, d) ← c.plainWord inFlow since (c.rest.length + 1)
      let (r, g) :=
        if w.isEmpty then (r, g) else (⟨r.text ++ g.text ++ w, d.mark, false⟩, Gap.empty)
      if !d.atSpace && !d.atBreak then return ({ r with broken := g.broken }, d)
      else
        let (g, d) ← g.read floor since d
        if !inFlow && d.mark.column < floor then return ({ r with broken := g.broken }, d)
        else plainFrom inFlow floor since fuel g r d

/-- A plain scalar, and whether a line end has been passed behind it. -/
def plainScalar (inFlow : Bool) (floor : Nat) (c : Cursor) : Reading (Token × Bool × Cursor) := do
  let (r, d) ← c.plainFrom inFlow floor c.mark (c.rest.length + 1) Gap.empty ⟨[], c.mark, false⟩
  return (⟨.scalar r.text .plain, c.mark, r.stop⟩, r.broken, d)

end Cursor

end Cutout.Yaml
