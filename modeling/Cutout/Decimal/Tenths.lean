/-!
# Numbers with one decimal

A quotient rounded to tenths; what lies in the middle goes to the even neighbour.
-/

namespace Cutout.Decimal

/-- The whole number nearest to a quotient, of two the even one. -/
def nearest (num den : Nat) : Nat :=
  let q := num / den
  let r := num % den
  if 2 * r < den ∨ (2 * r = den ∧ q % 2 = 0) then q else q + 1

/-- A quotient with one decimal. -/
def tenths (num den : Nat) : String :=
  let n := nearest (10 * num) den
  toString (n / 10) ++ "." ++ toString (n % 10)

end Cutout.Decimal
