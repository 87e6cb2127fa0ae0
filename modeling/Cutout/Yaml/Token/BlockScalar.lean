import Cutout.Yaml.Token

/-!
# Block scalars

A literal scalar keeps its line ends; a folded one joins lines with spaces, except around lines that
begin with a space. The header may say how far the text is indented and what becomes of the line
ends behind it: one is kept, or none, or all.
-/

namespace Cutout.Yaml.Cursor

/-- What becomes of the line ends behind a block scalar. -/
inductive Chomp where
  | strip | clip | keep
  deriving DecidableEq, Repr

/-- The chomping that an indicator asks for. -/
def chomp? (c : Cursor) : Option Chomp :=
  if c.sees 0 '+' then some .keep else if c.sees 0 '-' then some .strip else none

/-- The digit that an indentation indicator is. -/
def indentDigit? (c : Cursor) : Option Nat :=
  match c.peek with
  | some x => if x.isDigit then some (x.toNat - '0'.toNat) else none
  | none => none

/-- An indentation indicator, if there is one; it is not zero. -/
def indentIndicator (since : Mark) (c : Cursor) : Reading (Option Nat × Cursor) :=
  match c.indentDigit? with
  | none => .ok (none, c)
  | some 0 => c.breach .zeroIndent .blockScalar since
  | some n => .ok (some n, c.skip 1)

/-- The two indicators of a header, in either order. -/
def blockHeader (since : Mark) (c : Cursor) : Reading (Chomp × Option Nat × Cursor) :=
  match c.chomp? with
  | some h => do
    let (n, d) ← (c.skip 1).indentIndicator since
    return (h, n, d)
  | none => do
    let (n, d) ← c.indentIndicator since
    match n, d.chomp? with
    | some n, some h => return (h, some n, d.skip 1)
    | _, _ => return (.clip, n, d)

/-- Line ends and the indentation before the next line of text. -/
structure BlockGap where
  /-- The line ends passed. -/
  breaks : List Char
  /-- The column of the furthest indentation seen. -/
  deepest : Nat
  /-- Behind the last line end. -/
  stop : Mark
  deriving DecidableEq, Repr

/-- Pass over empty lines. The indentation goes up to column `indent`, or without limit if that is
not known yet. -/
def blockGapFrom (indent : Option Nat) (since : Mark) :
    (fuel : Nat) → BlockGap → Cursor → Reading (BlockGap × Cursor)
  | 0, g, c => .ok (g, c)
  | fuel + 1, g, c =>
    let inside (d : Cursor) : Bool :=
      match indent with
      | none => true
      | some n => d.mark.column < n
    let run := (c.span (· == ' ')).1.length
    let d :=
      match indent with
      | none => c.skip run
      | some n => c.skip (min run (n - c.mark.column))
    let g := { g with deepest := max g.deepest d.mark.column }
    if inside d && d.sees 0 '\t' then d.breach .tabIndent .blockScalar since
    else if d.atBreak then
      let (b, e) := d.lineBreak
      blockGapFrom indent since fuel { g with breaks := g.breaks ++ b, stop := e.mark } e
    else .ok (g, d)

/-- Pass over the empty lines from here on. -/
def blockGap (indent : Option Nat) (since : Mark) (c : Cursor) : Reading (BlockGap × Cursor) :=
  c.blockGapFrom indent since (c.rest.length + 1) ⟨[], 0, c.mark⟩

/-- A block scalar as far as it has been read. -/
structure BlockRun where
  text : List Char
  /-- The line end of the last line of text. -/
  lead : List Char
  /-- The line ends after it. -/
  more : List Char
  /-- The last line of text begins with a space. -/
  spaced : Bool
  stop : Mark
  deriving DecidableEq, Repr

/-- What joins the lines read so far to the next one. -/
def BlockRun.joint (literal spaced : Bool) (r : BlockRun) : List Char :=
  if !literal && r.lead.head? == some '\n' && !r.spaced && !spaced then
    (if r.more.isEmpty then [' '] else r.more)
  else r.lead ++ r.more

/-- The lines of a block scalar whose text begins in column `indent`. -/
def blockLinesFrom (literal : Bool) (indent : Nat) (since : Mark) :
    (fuel : Nat) → BlockRun → Cursor → Reading (BlockRun × Cursor)
  | 0, r, c => .ok (r, c)
  | fuel + 1, r, c =>
    if c.mark.column ≠ indent || c.atEnd then .ok (r, c)
    else do
      let spaced := c.atSpace
      let (line, d) := c.span fun x => !isBreak x
      let (b, d) := d.lineBreak
      let (g, d) ← d.blockGap (some indent) since
      blockLinesFrom literal indent since fuel
        ⟨r.text ++ r.joint literal spaced ++ line, b, g.breaks, spaced, g.stop⟩ d

/-- A block scalar inside a block whose entries stand in column `outer`, if there is one. -/
def blockScalar (literal : Bool) (outer : Option Nat) (c : Cursor) : Reading (Token × Cursor) := do
  let since := c.mark
  let (h, n, d) ← (c.skip 1).blockHeader since
  let d := (d.skipWhile isSpace).skipComment
  if !d.atLineEnd then d.breach .missingCommentOrBreak .blockScalar since
  else
    let known := n.map fun n => outer.getD 0 + n
    let (g, d) ← d.lineBreak.2.blockGap known since
    let indent := known.getD (max (max g.deepest (outer.elim 0 (· + 1))) 1)
    let (r, d) ←
      d.blockLinesFrom literal indent since (d.rest.length + 1) ⟨[], [], g.breaks, false, g.stop⟩
    let tail :=
      match h with
      | .strip => []
      | .clip => r.lead
      | .keep => r.lead ++ r.more
    let style := if literal then ScalarStyle.literal else ScalarStyle.folded
    return (⟨.scalar (r.text ++ tail) style, since, r.stop⟩, d)

end Cutout.Yaml.Cursor
