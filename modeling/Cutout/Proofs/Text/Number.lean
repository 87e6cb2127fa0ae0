import Cutout.Text.Number
import Mathlib.Algebra.Group.Nat.Defs
import Mathlib.Data.List.Basic

/-!
# Numbers as they are written

A number is read from digits, or from digits after a plus sign, just if its value fits into the bits
(`natural?_eq_some_iff`).
-/

namespace Cutout.Text

variable {bits n : Nat} {cs digits : List Char}

/-- The digits of a number that fits into some bits. -/
structure IsNumeral (bits : Nat) (digits : List Char) (n : Nat) : Prop where
  ne_nil : digits ≠ []
  isDigit : ∀ d ∈ digits, d.isDigit = true
  value : digitsValue digits = n
  fits : n < 2 ^ bits

theorem digits?_of_isDigit (hne : digits ≠ []) (hdigits : ∀ d ∈ digits, d.isDigit = true) :
    digits? bits digits =
      if digitsValue digits < 2 ^ bits then some (digitsValue digits) else none := by
  have hempty : digits.isEmpty = false := by simpa using hne
  have hall : digits.all Char.isDigit = true := List.all_eq_true.2 hdigits
  rw [digits?, hempty, hall]
  rfl

theorem digits?_eq_some_iff : digits? bits digits = some n ↔ IsNumeral bits digits n := by
  constructor
  · intro h
    have hsome := h
    unfold digits? at hsome
    split at hsome
    · cases hsome
    · next hdigits =>
      rw [Bool.or_eq_true, not_or, Bool.not_eq_true', Bool.not_eq_false] at hdigits
      have hne : digits ≠ [] := by
        rintro rfl
        exact hdigits.1 rfl
      have hall := List.all_eq_true.1 hdigits.2
      rw [digits?_of_isDigit hne hall] at h
      split at h
      · next hfits =>
        cases h
        exact ⟨hne, hall, rfl, hfits⟩
      · cases h
  · rintro ⟨hne, hdigits, rfl, hfits⟩
    rw [digits?_of_isDigit hne hdigits, if_pos hfits]

/-- Without a plus sign it is the digits that count. -/
theorem natural?_eq_digits? (h : cs.head? ≠ some '+') : natural? bits cs = digits? bits cs := by
  unfold natural?
  split
  · exact absurd rfl h
  · rfl

theorem natural?_eq_some_iff :
    natural? bits cs = some n ↔ IsNumeral bits cs n ∨ ∃ digits, cs = '+' :: digits ∧
      IsNumeral bits digits n := by
  rcases cs with _ | ⟨c, cs⟩
  · rw [natural?_eq_digits? (by simp), digits?_eq_some_iff]
    simp
  · by_cases hplus : c = '+'
    · subst hplus
      have hnot : ¬ IsNumeral bits ('+' :: cs) n := fun h =>
        absurd (h.isDigit '+' List.mem_cons_self) (by decide)
      rw [natural?, digits?_eq_some_iff]
      simp [hnot]
    · have hhead : (c :: cs).head? ≠ some '+' := fun h => hplus (Option.some.inj h)
      rw [natural?_eq_digits? hhead, digits?_eq_some_iff]
      simp [hplus]

/-- Digits are read as a number of some bits just if their value fits into the bits. -/
theorem natural?_digits (hne : digits ≠ []) (hdigits : ∀ d ∈ digits, d.isDigit = true) :
    natural? bits digits =
      if digitsValue digits < 2 ^ bits then some (digitsValue digits) else none := by
  have hhead : digits.head? ≠ some '+' := fun h =>
    absurd (hdigits '+' (List.mem_of_head? h)) (by decide)
  rw [natural?_eq_digits? hhead, digits?_of_isDigit hne hdigits]

end Cutout.Text
