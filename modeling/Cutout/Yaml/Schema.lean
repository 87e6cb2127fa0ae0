import Cutout.Decimal.Shortest
import Cutout.Yaml.Event

/-!
# What a scalar means

A plain scalar can be nothing, a truth value or a number; any other scalar is its text. Integers are
decimal, hexadecimal, octal or binary; digits that begin with a zero are a text. A tag can demand
one of these meanings.
-/

namespace Cutout.Yaml

/-! ## Plain meanings -/

/-- The spellings of nothing, besides no text at all. -/
def isNull (cs : List Char) : Bool :=
  ["null", "Null", "NULL", "~"].contains (String.ofList cs)

/-- The spellings of a truth value. -/
def boolean? (cs : List Char) : Option Bool :=
  let s := String.ofList cs
  if ["true", "True", "TRUE"].contains s then some true
  else if ["false", "False", "FALSE"].contains s then some false
  else none

/-- The value of one or more digits in a base. -/
def number? (base : Nat) (ds : List Char) : Option Nat :=
  if ds.isEmpty then none
  else ds.foldl (fun n d => do return base * (← n) + (← Text.digit? base d)) (some 0)

/-- A number in a base, if it begins with the mark of the base. -/
def marked? (cs : List Char) : Option Nat :=
  match cs with
  | '0' :: 'x' :: ds => number? 16 ds
  | '0' :: 'o' :: ds => number? 8 ds
  | '0' :: 'b' :: ds => number? 2 ds
  | _ => none

/-- Digits that begin with a zero, with or without a sign: a text. -/
def isPadded (cs : List Char) : Bool :=
  let ds :=
    match cs with
    | '-' :: r => r
    | '+' :: r => r
    | r => r
  match ds with
  | '0' :: d :: r => (d :: r).all Char.isDigit
  | _ => false

/-- A number that is not negative, perhaps after a plus sign. -/
def unsigned? (cs : List Char) : Option Nat :=
  let body :=
    match cs with
    | '+' :: r => r
    | r => r
  match marked? body with
  | some n => some n
  | none => if isPadded cs then none else number? 10 body

/-- The amount of a number after a minus sign. -/
def negated? (cs : List Char) : Option Nat :=
  match cs with
  | '-' :: body =>
    match marked? body with
    | some n => some n
    | none => if isPadded cs then none else number? 10 body
  | _ => none

/-- An integer as a message shows it: by the narrowest of four types that holds it, if one does. -/
def integer? (cs : List Char) : Option Found :=
  match unsigned? cs, negated? cs with
  | some n, _ =>
    if n < Nat.pow 2 64 then some (.integer n)
    else if n < Nat.pow 2 128 then some (.wideInteger n "u128")
    else none
  | none, some n =>
    if n ≤ Nat.pow 2 63 then some (.integer (-n))
    else if n ≤ Nat.pow 2 127 then some (.wideInteger (-n) "i128")
    else none
  | none, none => none

/-- A number with a fraction or an exponent, or one too large for an integer, written out. -/
def float? (cs : List Char) : Option String :=
  let s := String.ofList cs
  let body :=
    match cs with
    | '+' :: r => r
    | r => r
  if [".inf", ".Inf", ".INF"].contains (String.ofList body) then some "inf"
  else if ["-.inf", "-.Inf", "-.INF"].contains s then some "-inf"
  else if [".nan", ".NaN", ".NAN"].contains s then some "NaN"
  else
    match body with
    | '-' :: r =>
      if body.length < cs.length then none
      else (Decimal.numeral? r).bind fun n => n.toFloat?.map fun x => Decimal.text (-x)
    | r => (Decimal.numeral? r).bind fun n => n.toFloat?.map Decimal.text

/-- A plain scalar as a message shows it. -/
def plainMeaning (cs : List Char) : Found :=
  if cs.isEmpty || isNull cs then .nothing
  else
    match boolean? cs with
    | some b => .boolean b
    | none =>
      match integer? cs with
      | some f => f
      | none =>
        match if isPadded cs then none else float? cs with
        | some d => .float d
        | none => .text (String.ofList cs)

/-! ## Tags -/

/-- A tag of the standard vocabulary. -/
def standardTag (name : String) : Bytes :=
  Bytes.ofAscii ("tag:yaml.org,2002:" ++ name)

namespace Scalar

/-- The text of a scalar. -/
def string (s : Scalar) : String :=
  String.ofList s.text

/-- The scalar has this tag of the standard vocabulary. -/
def hasTag (s : Scalar) (name : String) : Bool :=
  s.tag == some (standardTag name)

/-- The tag is a local one. -/
def hasLocalTag (s : Scalar) : Bool :=
  s.tag.any fun t => t.head? == some 0x21

/-- The scalar may stand for a value of the type that a standard tag names: it is plain, or literal
with that tag. -/
def speaksFor (s : Scalar) (name : String) : Bool :=
  s.style == .plain || (s.style == .literal && s.hasTag name)

/-- The misfit of a scalar where something else was expected. A standard tag decides what the
scalar is shown as, and is itself a misfit if the text does not suit it. -/
def misfit (s : Scalar) (expected : String) : Misfit :=
  let demand (f : Option Found) (name : String) : Misfit :=
    match f with
    | some f => .kind f expected
    | none => .value (.text s.string) name
  if s.hasTag "bool" then demand ((boolean? s.text).map .boolean) "a boolean"
  else if s.hasTag "int" then demand (integer? s.text) "an integer"
  else if s.hasTag "float" then demand ((float? s.text).map .float) "a float"
  else if s.hasTag "null" then demand (if isNull s.text then some .nothing else none) "null"
  else if s.style == .plain && (s.tag.isNone || s.hasLocalTag) then
    .kind (plainMeaning s.text) expected
  else .kind (.text s.string) expected

end Scalar

end Cutout.Yaml
