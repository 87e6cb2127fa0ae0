import Cutout.Decimal.Shortest
import Cutout.Log.Threshold
import Cutout.Text.Blank
import Cutout.Text.Pieces
import Cutout.Text.WordTable

/-!
# Log filters

A filter is a list of directives between commas. A directive names a threshold, or a target and a
threshold for it: `target=threshold`. It can name a span and fields in brackets: `[span{field}]`, and
a value for a field: `[{field=value}]`. A value that is neither a truth value nor a number is a pattern.
Of the directives that apply to an entry the most specific one decides, and of equal ones the last.
A directive about a span or the value of a field applies to no entry outside of spans.
-/

namespace Cutout

/-- A field that an entry has to have. -/
structure FieldPattern where
  name : String
  hasValue : Bool
  deriving DecidableEq, Repr

/-- A directive. -/
structure Directive where
  threshold : Threshold
  /-- What the targets of entries begin with. -/
  target : Option String
  span : Option String
  fields : List FieldPattern
  deriving DecidableEq, Repr

/-- A library of patterns, as far as it can stand in the way of a filter. -/
structure Patterns where
  /-- What it has against a pattern, if anything. -/
  complaint? : String → Option String

/-- A library that takes every pattern. -/
def Patterns.all : Patterns :=
  ⟨fun _ => none⟩

/-- Why a filter cannot be read. -/
inductive FilterFault where
  | directive
  | threshold
  /-- The value of a field is no pattern. -/
  | field (complaint : String)
  deriving DecidableEq, Repr

/-- The text for a fault. -/
def FilterFault.message : FilterFault → String
  | directive => "invalid filter directive"
  | threshold =>
    "error parsing level filter: expected one of \"off\", \"error\", \"warn\", \"info\", " ++
      "\"debug\", \"trace\", or a number 0-5"
  | field complaint => "invalid field filter: " ++ complaint

namespace Directive

/-! ## Reading -/

/-- Where the reading of a directive is, with the place where the present piece began. Places are
counted in bytes. -/
inductive State where
  | start
  | word (place : Nat)
  | span (place : Nat)
  | field (place : Nat)
  | afterField
  | afterSpan
  | threshold (place : Nat)
  deriving DecidableEq, Repr

/-- A directive that says nothing lets everything through. -/
def empty : Directive :=
  ⟨.upTo .trace, none, none, []⟩

/-- The first `n` bytes of a text and what follows them, if no character is cut apart. -/
def cutAt? : (n : Nat) → List Char → Option (List Char × List Char)
  | 0, cs => some ([], cs)
  | _ + 1, [] => none
  | n + 1, c :: cs =>
    if c.utf8Size ≤ n + 1 then
      (cutAt? (n + 1 - c.utf8Size) cs).map fun (front, rest) => (c :: front, rest)
    else none

/-- The text from a place on. -/
def behind (text : List Char) (first : Nat) : Except FilterFault (List Char) :=
  match cutAt? first text with
  | none => .error .directive
  | some (_, rest) => .ok rest

/-- The text from one place to another. -/
def slice (text : List Char) (first last : Nat) : Except FilterFault (List Char) := do
  match cutAt? (last - first) (← behind text first) with
  | none => .error .directive
  | some (front, _) => return front

/-- A value that stands for itself: a truth value, or a number, which can be infinite or undefined. -/
def isPlain (value : List Char) : Bool :=
  let unsigned :=
    match value with
    | '+' :: r => r
    | '-' :: r => r
    | r => r
  ["true", "false"].contains (String.ofList value) ||
    ["inf", "infinity", "nan"].contains (Text.asciiLower (String.ofList unsigned)) ||
    (Decimal.numeral? unsigned).isSome

/-- The field of a pattern: a value can follow an equals sign, and ends at the next one. -/
def fieldOf (patterns : Patterns) (text : List Char) : Except FilterFault FieldPattern :=
  match Text.pieces '=' text with
  | name :: value :: _ =>
    match if isPlain value then none else patterns.complaint? (String.ofList value) with
    | none => .ok ⟨String.ofList name, true⟩
    | some complaint => .error (.field complaint)
  | _ => .ok ⟨String.ofList text, false⟩

/-- A directive can begin with this character. -/
def isFirst (c : Char) : Bool :=
  c == '-' || c == ':' || c == '_' || Text.isWordChar c

/-- The state and the directive after the character `c` at a place. -/
def step (patterns : Patterns) (text : List Char) (place : Nat) (c : Char) :
    State × Directive → Except FilterFault (State × Directive)
  | (.start, d) =>
    if c = '[' then .ok (.span (place + 1), d)
    else if isFirst c then .ok (.word place, d)
    else .error .directive
  | (.word first, d) =>
    if c = '=' then do
      let target ← slice text first place
      return (.threshold (place + 1), { d with target := some (String.ofList target) })
    else if c = '[' then do
      let target ← slice text first place
      return (.span (place + 1), { d with target := some (String.ofList target) })
    else .ok (.word first, d)
  | (.span first, d) =>
    if c = ']' then do
      let span ← slice text first place
      return (.afterSpan, { d with span := some (String.ofList span) })
    else if c = '\x7b' then do
      let span ← slice text first place
      return (.field (place + 1),
        { d with span := if span.isEmpty then none else some (String.ofList span) })
    else .ok (.span first, d)
  | (.field first, d) =>
    if c = '\x7d' then do
      let field ← slice text first place
      if field.isEmpty then .error .directive
      else return (.afterField, { d with fields := d.fields ++ [← fieldOf patterns field] })
    else .ok (.field first, d)
  | (.afterField, d) => if c = ']' then .ok (.afterSpan, d) else .error .directive
  | (.afterSpan, d) => if c = '=' then .ok (.threshold (place + 1), d) else .error .directive
  | (.threshold first, d) => .ok (.threshold first, d)

/-- Read the characters from a place on. -/
def stepsFrom (patterns : Patterns) (text : List Char) :
    (place : Nat) → List Char → State × Directive → Except FilterFault (State × Directive)
  | _, [], s => .ok s
  | place, c :: cs, s => do
    stepsFrom patterns text (place + c.utf8Size) cs (← step patterns text place c s)

/-- The directive at the end of a text. -/
def conclude (text : List Char) : State × Directive → Except FilterFault Directive
  -- a word alone is a threshold if it can be, and a target otherwise
  | (.word first, d) => do
    let word := String.ofList (← behind text first)
    match Threshold.parse? word with
    | some t => return { d with threshold := t }
    | none => return { d with target := some word }
  | (.threshold first, d) => do
    let word := String.ofList (← behind text first)
    if word.isEmpty then return d
    else
      match Threshold.parse? word with
      | some t => return { d with threshold := t }
      | none => .error .threshold
  | (.afterSpan, d) => .ok d
  | _ => .error .directive

/-- Read a directive. Its characters are looked at without the white space around them, but its pieces
are cut out of the whole text by their places; there is no directive where that cuts a character
apart. -/
def parse (patterns : Patterns) (text : List Char) : Except FilterFault Directive := do
  conclude text (← stepsFrom patterns text 0 (Text.trimBlank text) (.start, empty))

/-! ## Applying -/

/-- The directive is about entries outside of spans. -/
def isStatic (d : Directive) : Bool :=
  d.span.isNone && d.fields.all fun f => !f.hasValue

/-- The only field that entries have. -/
def messageField : String := "message"

/-- The directive applies to an entry. -/
def appliesTo (d : Directive) (e : LogEntry) : Bool :=
  d.isStatic && (d.target.all fun t => e.target.startsWith t) &&
    d.fields.all fun f => f.name == messageField

/-- The length of a target; none is shorter than the empty one. -/
def reach (d : Directive) : Nat :=
  match d.target with
  | none => 0
  | some t => t.length + 1

/-- A directive is at least as specific as another one that applies to the same entry. -/
def isAtLeast (d e : Directive) : Bool :=
  e.reach < d.reach || (e.reach == d.reach && e.fields.length ≤ d.fields.length)

end Directive

/-- A filter. -/
structure Filter where
  directives : List Directive
  deriving DecidableEq, Repr

namespace Filter

/-- Read a filter. Without directives it lets nothing through. -/
def parse (s : String) (patterns : Patterns := .all) : Except FilterFault Filter := do
  let ds ← ((Text.pieces ',' s.toList).filter fun piece => !piece.isEmpty).mapM
    (Directive.parse patterns)
  return ⟨ds⟩

/-- The directive that decides on an entry. -/
def decider? (f : Filter) (e : LogEntry) : Option Directive :=
  (f.directives.filter fun d => d.appliesTo e).foldl
    (fun best d =>
      match best with
      | none => some d
      | some b => if d.isAtLeast b then some d else some b) none

/-- The filter lets an entry through. -/
def allows (f : Filter) (e : LogEntry) : Bool :=
  match f.decider? e with
  | none => false
  | some d => d.threshold.allows e.level

end Filter

end Cutout
