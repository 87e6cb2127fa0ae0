import Cutout.Text.Number

/-!
# Double-precision numbers as decimals

A decimal is read as the nearest double-precision number. Such a number is written with the fewest
digits that are read back as the same number, and of those the nearest ones, always positionally and
with a decimal point.
-/

namespace Cutout.Decimal

/-! ## Reading -/

/-- A decimal without its sign: digits, and the power of ten that they are multiplied with. -/
structure Numeral where
  digits : List Char
  exponent : Int
  deriving DecidableEq, Repr

/-- An exponent with its letter; nothing is an exponent of zero. -/
def exponent? : List Char → Option Int
  | [] => some 0
  | e :: cs =>
    if e == 'e' || e == 'E' then
      let (negative, ds) :=
        match cs with
        | '-' :: r => (true, r)
        | '+' :: r => (false, r)
        | r => (false, r)
      if ds.isEmpty || !ds.all Char.isDigit then none
      else some (if negative then -(Text.digitsValue ds : Int) else Text.digitsValue ds)
    else none

/-- Digits with at most one point among them and at least one digit, and perhaps an exponent. -/
def numeral? (cs : List Char) : Option Numeral := do
  let whole := cs.takeWhile Char.isDigit
  let rest := cs.dropWhile Char.isDigit
  let (fraction, rest) :=
    match rest with
    | '.' :: r => (r.takeWhile Char.isDigit, r.dropWhile Char.isDigit)
    | r => ([], r)
  if whole.isEmpty && fraction.isEmpty then none
  else
    let e ← exponent? rest
    return ⟨whole ++ fraction, e - fraction.length⟩

/-- Beyond this power of ten a number is infinite, and below its negative it is zero. -/
def exponentLimit : Int := 400

/-- The nearest number that is not infinite, if there is one. -/
def Numeral.toFloat? (n : Numeral) : Option Float :=
  let ds := n.digits.dropWhile (· == '0')
  let size := n.exponent + ds.length
  if ds.isEmpty || size < -exponentLimit then some 0
  else if exponentLimit < size then none
  else
    let x := Float.ofScientific (Text.digitsValue ds) (n.exponent < 0) n.exponent.natAbs
    if x.isInf then none else some x

/-! ## Writing -/

/-- A positive number as `significand * 2 ^ exponent`. -/
structure Binary where
  significand : Nat
  exponent : Int
  deriving DecidableEq, Repr

/-- The parts of a positive number. -/
def Binary.ofFloat (x : Float) : Binary :=
  let b := x.toBits.toNat % Nat.pow 2 63
  let e : Nat := b / Nat.pow 2 52
  let f : Nat := b % Nat.pow 2 52
  if e = 0 then ⟨f, -1074⟩ else ⟨Nat.pow 2 52 + f, (e : Int) - 1075⟩

/-- A quarter of the last place of a number is the unit in which the number and the ends of the
interval that is read as it are whole. -/
structure Interval where
  low : Nat
  value : Nat
  high : Nat
  /-- The ends belong to the interval. -/
  closed : Bool
  /-- The unit is this power of two. -/
  unit : Int

/-- What is read as a given number. Below a power of two the numbers lie twice as close. -/
def Binary.interval (b : Binary) : Interval :=
  let v := 4 * b.significand
  let below := if b.significand = Nat.pow 2 52 && b.exponent ≠ -1074 then 1 else 2
  ⟨v - below, v, v + 2, b.significand % 2 = 0, b.exponent - 2⟩

/-- A decimal in the interval lies there strictly, or on an end that belongs to it. All three are
scaled alike. -/
def Interval.admits (i : Interval) (scale x : Nat) : Bool :=
  let l := i.low * scale
  let h := i.high * scale
  (l < x && x < h) || (i.closed && (x = l || x = h))

/-- A digit string and the power of ten of its last digit. -/
structure Digits where
  value : Nat
  power : Int
  deriving DecidableEq, Repr

/-- The multiples of `10 ^ p` next to a number, as far as they are read back as it: the nearer one,
and the upper one of two that are equally near. -/
def Interval.onGrid (i : Interval) (p : Int) : Option Digits :=
  -- both the interval and the grid are multiplied until they are whole
  let scale := Nat.pow 2 i.unit.toNat * Nat.pow 10 (-p).toNat
  let step := Nat.pow 10 p.toNat * Nat.pow 2 (-i.unit).toNat
  let q := i.value * scale / step
  let below := q * step
  let above := (q + 1) * step
  let v := i.value * scale
  match i.admits scale below, i.admits scale above with
  | true, true => some ⟨if 2 * v < below + above then q else q + 1, p⟩
  | true, false => some ⟨q, p⟩
  | false, true => some ⟨q + 1, p⟩
  | false, false => none

/-- The number of decimal digits of a number before its point; zero or less if there are none. -/
def Binary.magnitude (b : Binary) : Int :=
  if 0 ≤ b.exponent then (Nat.toDigits 10 (b.significand * Nat.pow 2 b.exponent.toNat)).length
  else
    let num := b.significand
    let den := Nat.pow 2 (-b.exponent).toNat
    if den ≤ num then (Nat.toDigits 10 (num / den)).length
    else 1 - ((Nat.toDigits 10 ((den + num - 1) / num - 1)).length : Int)

/-- The fewest digits that are read back, looked for from the coarsest grid on. -/
def Interval.shortestFrom (i : Interval) : (fuel : Nat) → Int → Option Digits
  | 0, _ => none
  | fuel + 1, p =>
    match i.onGrid p with
    -- zero lies on every grid, and stands for no other number
    | some d => if d.value = 0 then shortestFrom i fuel (p - 1) else some d
    | none => shortestFrom i fuel (p - 1)

/-- Digits written out positionally. -/
def Digits.positional (d : Digits) : List Char :=
  let ds := Nat.toDigits 10 d.value
  if 0 ≤ d.power then ds ++ List.replicate d.power.toNat '0' ++ ['.', '0']
  else
    let places := (-d.power).toNat
    let ds := List.replicate (places + 1 - ds.length) '0' ++ ds
    ds.take (ds.length - places) ++ ['.'] ++ ds.drop (ds.length - places)

/-- A number written out. -/
def text (x : Float) : String :=
  if x.isNaN then "NaN"
  else
    let sign := if x.toBits.toNat / Nat.pow 2 63 = 1 then "-" else ""
    let b := Binary.ofFloat x
    sign ++
      if x.isInf then "inf"
      else if b.significand = 0 then "0.0"
      else
        match b.interval.shortestFrom 20 b.magnitude with
        | some d => String.ofList d.positional
        | none => "0.0"

end Cutout.Decimal
