import Cutout.Proofs.Yaml.Block
import Cutout.Yaml.Schema

/-!
# Integers in decimal

The digits of a number are read back as the number (`number?_toDigits`), and they begin with a zero only
where they are a zero alone, so that none of the other notations is taken for them. Behind a minus sign
they are read where a number below zero is wanted, and not where it is not (`unsigned?_toString`).
-/

namespace Cutout.Yaml

/-! ## Digits -/

theorem digit?_digitChar : ∀ d < 10, Text.digit? 10 d.digitChar = some d := by
  decide

/-- One more digit at the end. -/
theorem number?_append {base n d : Nat} {ds : List Char} {c : Char}
    (hds : number? base ds = some n) (hc : Text.digit? base c = some d) :
    number? base (ds ++ [c]) = some (base * n + d) := by
  unfold number? at hds ⊢
  have hne : ds.isEmpty = false := by
    cases ds with
    | nil => cases hds
    | cons _ _ => rfl
  rw [hne, if_neg Bool.false_ne_true] at hds
  rw [if_neg (by simp), List.foldl_append, hds]
  simp [hc]

theorem number?_toDigits (n : Nat) : number? 10 (Nat.toDigits 10 n) = some n := by
  induction n using Nat.strongRecOn with
  | ind n ih =>
    rcases Nat.lt_or_ge n 10 with hlt | hge
    · rw [Nat.toDigits_of_lt_base hlt]
      simp [number?, digit?_digitChar n hlt]
    · rw [Nat.toDigits_of_base_le (by decide) hge,
        number?_append (ih (n / 10) (by omega)) (digit?_digitChar _ (Nat.mod_lt n (by decide))),
        Nat.div_add_mod]

/-- What is more than zero does not begin with a zero. -/
theorem head?_toDigits {n : Nat} (hn : 0 < n) : (Nat.toDigits 10 n).head? ≠ some '0' := by
  induction n using Nat.strongRecOn with
  | ind n ih =>
    rcases Nat.lt_or_ge n 10 with hlt | hge
    · rw [Nat.toDigits_of_lt_base hlt]
      exact (by decide : ∀ d < 10, 0 < d → [d.digitChar].head? ≠ some '0') n hlt hn
    · have hhead := ih (n / 10) (by omega) (by omega)
      rw [Nat.toDigits_of_base_le (by decide) hge]
      obtain ⟨c, ds, hds⟩ := List.exists_cons_of_ne_nil (Nat.toDigits_ne_nil (n := n / 10) (b := 10))
      rwa [hds] at hhead ⊢

/-- Behind a zero there is nothing. -/
theorem toDigits_ne_zero_cons (n : Nat) (c : Char) (ds : List Char) :
    Nat.toDigits 10 n ≠ '0' :: c :: ds := by
  intro h
  rcases Nat.eq_zero_or_pos n with rfl | hn
  · rw [Nat.toDigits_zero] at h
    cases h
  · exact head?_toDigits hn (by rw [h]; rfl)

/-! ## Notations -/

section Notations

variable {cs : List Char}

theorem unsigned?_of_ne_plus (hplus : ∀ r, cs ≠ '+' :: r) (hmarked : marked? cs = none)
    (hpadded : isPadded cs = false) : unsigned? cs = number? 10 cs := by
  unfold unsigned?
  split
  · next r => exact absurd rfl (hplus r)
  · simp only [hmarked, hpadded, Bool.false_eq_true, if_false]

theorem marked?_of_ne_zero (hzero : ∀ c r, cs ≠ '0' :: c :: r) : marked? cs = none := by
  unfold marked?
  split
  · next r => exact absurd rfl (hzero 'x' r)
  · next r => exact absurd rfl (hzero 'o' r)
  · next r => exact absurd rfl (hzero 'b' r)
  · rfl

theorem isPadded_of_ne_zero (hplus : ∀ r, cs ≠ '+' :: r) (hminus : ∀ r, cs ≠ '-' :: r)
    (hzero : ∀ c r, cs ≠ '0' :: c :: r) : isPadded cs = false := by
  unfold isPadded
  dsimp only
  split
  · next d r heq =>
    split at heq
    · next r' => exact absurd rfl (hminus r')
    · next r' => exact absurd rfl (hplus r')
    · exact absurd heq (hzero d r)
  · rfl

end Notations

theorem isDigit_of_mem_toDigits {n : Nat} {c : Char} (hc : c ∈ Nat.toDigits 10 n) :
    c.isDigit = true :=
  Nat.isDigit_of_mem_toDigits (by decide) (by decide) hc

/-- Digits do not begin with a sign. -/
theorem toDigits_ne_cons {c : Char} (hc : c.isDigit = false) (n : Nat) (r : List Char) :
    Nat.toDigits 10 n ≠ c :: r := by
  intro h
  rw [isDigit_of_mem_toDigits (h ▸ List.mem_cons_self)] at hc
  cases hc

/-- The digits of a number are the number, and not one in another notation. -/
theorem unsigned?_toDigits (n : Nat) : unsigned? (Nat.toDigits 10 n) = some n := by
  have hplus := toDigits_ne_cons (c := '+') (by decide) n
  have hminus := toDigits_ne_cons (c := '-') (by decide) n
  have hzero := toDigits_ne_zero_cons n
  rw [unsigned?_of_ne_plus hplus (marked?_of_ne_zero hzero)
    (isPadded_of_ne_zero hplus hminus hzero), number?_toDigits]

/-- Where a digit was missing there is no number any more. -/
theorem foldl_digits_none (base : Nat) (cs : List Char) :
    cs.foldl (fun (n : Option Nat) d => do return base * (← n) + (← Text.digit? base d)) none = none := by
  induction cs with
  | nil => rfl
  | cons c cs ih => exact ih

/-- Everything in a number is a digit. -/
theorem isSome_digit?_of_number? {base v : Nat} {ds : List Char} (h : number? base ds = some v) :
    ∀ c ∈ ds, (Text.digit? base c).isSome = true := by
  have hfold : ∀ (ds : List Char) (n : Nat), ds.foldl (fun (n : Option Nat) d => do
      return base * (← n) + (← Text.digit? base d)) (some n) = some v →
      ∀ c ∈ ds, (Text.digit? base c).isSome = true := by
    intro ds
    induction ds with
    | nil => exact fun n _ c hc => absurd hc List.not_mem_nil
    | cons d ds ih =>
      intro n hn
      rw [List.foldl_cons] at hn
      cases hd : Text.digit? base d with
      | none =>
        rw [hd] at hn
        exact absurd (hn.symm.trans (foldl_digits_none base ds)) (by simp)
      | some m =>
        rw [hd] at hn
        exact List.forall_mem_cons.2 ⟨by rw [hd]; rfl, ih _ hn⟩
  unfold number? at h
  split at h
  · cases h
  · exact hfold ds 0 h

/-- What begins with a minus sign is not a number that is not negative. -/
theorem unsigned?_minus (ds : List Char) : unsigned? ('-' :: ds) = none := by
  have hnumber : number? 10 ('-' :: ds) = none := foldl_digits_none 10 ds
  have h : unsigned? ('-' :: ds) =
      if isPadded ('-' :: ds) then none else number? 10 ('-' :: ds) := rfl
  rw [h, hnumber, ite_self]

/-! ## Integers -/

theorem toList_toString_ofNat (n : Nat) : (toString (n : Int)).toList = Nat.toDigits 10 n := by
  have h : toString (n : Int) = toString n := rfl
  rw [h, Nat.toString_eq_ofList_toDigits, String.toList_ofList]

theorem toList_toString_negSucc (n : Nat) :
    (toString (Int.negSucc n)).toList = '-' :: Nat.toDigits 10 (n + 1) := by
  have h : toString (Int.negSucc n) = "-" ++ toString (n + 1) := rfl
  rw [h, String.toList_append, Nat.toString_eq_ofList_toDigits, String.toList_ofList,
    String.toList_ofList]
  rfl

/-- A number that is wanted without a sign is read if it has none. -/
theorem unsigned?_toString (n : Int) :
    unsigned? (toString n).toList = if 0 ≤ n then some n.toNat else none := by
  cases n with
  | ofNat n =>
    rw [Int.ofNat_eq_natCast, toList_toString_ofNat, unsigned?_toDigits, if_pos (by omega)]
    rfl
  | negSucc n => rw [toList_toString_negSucc, unsigned?_minus, if_neg (by omega)]

theorem isNameChar_of_isDigit {c : Char} (h : c.isDigit = true) : isNameChar c = true := by
  have hrange : (0x30, 0x39) ∈ Text.wordRanges := List.mem_cons_self
  simp only [Char.isDigit, Bool.and_eq_true, decide_eq_true_eq] at h
  have hword : Text.isWordChar c = true :=
    List.any_eq_true.2 ⟨_, hrange, by simpa using ⟨h.1, h.2⟩⟩
  rw [isNameChar, hword]
  rfl

/-- An integer is a bare word. -/
theorem isBare_toString (n : Int) : IsBare (toString n).toList := by
  have hdigits : ∀ n, ∀ c ∈ Nat.toDigits 10 n, isNameChar c = true := fun n c hc =>
    isNameChar_of_isDigit (isDigit_of_mem_toDigits hc)
  cases n with
  | ofNat n =>
    rw [Int.ofNat_eq_natCast, toList_toString_ofNat]
    exact ⟨_, .inl rfl, Nat.toDigits_ne_nil, hdigits n⟩
  | negSucc n =>
    rw [toList_toString_negSucc]
    exact ⟨_, .inr rfl, Nat.toDigits_ne_nil, hdigits (n + 1)⟩

/-- An integer is not a spelling of nothing. -/
theorem isNull_toString (n : Int) : isNull (toString n).toList = false := by
  have hhead : ∀ c r, (toString n).toList = c :: r → c.isDigit = true ∨ c = '-' := by
    intro c r h
    cases n with
    | ofNat n =>
      rw [Int.ofNat_eq_natCast, toList_toString_ofNat] at h
      exact .inl (isDigit_of_mem_toDigits (h ▸ List.mem_cons_self))
    | negSucc n =>
      rw [toList_toString_negSucc] at h
      exact .inr (List.cons.inj h).1.symm
  rw [isNull, String.ofList_toList, List.contains_eq_mem, decide_eq_false_iff_not]
  intro hmem
  have hnull : ∀ s ∈ ["null", "Null", "NULL", "~"], ∃ c r, s.toList = c :: r ∧
      c.isDigit = false ∧ c ≠ '-' := by
    simp
  obtain ⟨c, r, hcr, hdigit, hminus⟩ := hnull _ hmem
  rcases hhead c r hcr with h | h
  · rw [h] at hdigit
    cases hdigit
  · exact hminus h

end Cutout.Yaml
