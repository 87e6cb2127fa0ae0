import Cutout.Proofs.Single.Nearest
import Mathlib

/-!
# Rounding of mantissas

Arithmetic in single precision works on mantissas and exponents. A mantissa with too many digits is
shifted to the right, and two bits remember what was shifted out: `StandsFor` says what they mean, and
that shifting keeps it (`StandsFor.shiftRight`). So what comes out is the number nearest to the exact
result (`isRounding_roundWithAccuracy`, `isRounding_normalize`).
-/

namespace Cutout.Single

open Float.Model Float.Model.UnpackedFloat

/-! ## What was shifted out -/

/-- A mantissa and its two bits stand for `q`: its whole part, whether the rest is at least a half, and
whether there is anything beyond this half. -/
def StandsFor (em : ExtendedMantissa) (q : ℚ) : Prop :=
  ∃ rest : ℚ, 0 ≤ rest ∧ rest < 1 / 2 ∧ (em.stickyBit = true ↔ 0 < rest) ∧
    q = em.mantissa + (if em.roundBit then 1 / 2 else 0) + rest

variable {em : ExtendedMantissa} {q : ℚ}

theorem standsFor_exact (m : ℕ) : StandsFor (.ofMantissaAndAccuracy m .exact) m :=
  ⟨0, le_rfl, one_half_pos, by simp [ExtendedMantissa.ofMantissaAndAccuracy],
    by simp [ExtendedMantissa.ofMantissaAndAccuracy]⟩

theorem StandsFor.le (h : StandsFor em q) : (em.mantissa : ℚ) ≤ q := by
  obtain ⟨rest, hrest, -, -, rfl⟩ := h
  split <;> linarith

theorem StandsFor.lt (h : StandsFor em q) : q < em.mantissa + 1 := by
  obtain ⟨rest, -, hrest, -, rfl⟩ := h
  split <;> linarith

theorem StandsFor.floor_eq (h : StandsFor em q) : ⌊q⌋ = em.mantissa :=
  Int.floor_eq_iff.2 ⟨by exact_mod_cast h.le, by exact_mod_cast h.lt⟩

theorem StandsFor.shiftRightOne (h : StandsFor em q) : StandsFor em.shiftRightOne (q / 2) := by
  obtain ⟨rest, hnonneg, hhalf, hsticky, rfl⟩ := h
  obtain ⟨m, round, sticky⟩ := em
  -- the last digit becomes the half, and the old half moves behind it
  refine ⟨(if round then 1 / 2 else 0) / 2 + rest / 2, ?_, ?_, ?_, ?_⟩
  · split <;> linarith
  · split <;> linarith
  · cases round
    · simpa [ExtendedMantissa.shiftRightOne] using hsticky
    · have : 0 < 1 / 2 / 2 + rest / 2 := by linarith
      simpa [ExtendedMantissa.shiftRightOne] using this
  · have hdigit : (m : ℚ) = 2 * (m / 2 : ℕ) + (m % 2 : ℕ) := by
      exact_mod_cast (Nat.div_add_mod m 2).symm
    rcases Nat.mod_two_eq_zero_or_one m with hm | hm
    · rw [hm] at hdigit
      simp only [ExtendedMantissa.shiftRightOne, hm, hdigit]
      norm_num
      ring
    · rw [hm] at hdigit
      simp only [ExtendedMantissa.shiftRightOne, hm, hdigit]
      norm_num
      ring

theorem StandsFor.shiftRight (h : StandsFor em q) (n : ℕ) : StandsFor (em >>> n) (q / 2 ^ n) := by
  induction n with
  | zero => simpa [HShiftRight.hShiftRight, Nat.repeat] using h
  | succ n ih =>
    have hstep := ih.shiftRightOne
    rwa [div_div, ← pow_succ] at hstep

/-- The two bits are all that rounding to nearest needs to know. -/
theorem StandsFor.isNearest (h : StandsFor em q) : IsNearest q em.roundedMantissa := by
  obtain ⟨rest, hnonneg, hhalf, hsticky, rfl⟩ := h
  obtain ⟨m, round, sticky⟩ := em
  have hnone : sticky = false → rest = 0 := by
    rintro rfl
    exact le_antisymm (not_lt.1 fun hpos => Bool.false_ne_true (hsticky.2 hpos)) hnonneg
  -- a distance below a half is no tie
  have hclear : ∀ {p : ℚ} {n : ℤ}, |p - n| < 1 / 2 → IsNearest p n := fun hlt =>
    ⟨hlt.le, fun htie => absurd htie hlt.ne⟩
  cases round <;> cases sticky
  case false.false =>
    rw [hnone rfl]
    show IsNearest _ (m : ℤ)
    simpa using isNearest_intCast m
  case false.true =>
    refine hclear ?_
    rw [abs_lt]
    simp only [ExtendedMantissa.roundedMantissa, ExtendedMantissa.accuracy,
      Accuracy.roundToNearestEven]
    push_cast
    constructor <;> simp <;> linarith
  case true.false =>
    rw [hnone rfl]
    show IsNearest _ ((m + m % 2 : ℕ) : ℤ)
    rcases Nat.even_or_odd m with heven | hodd
    · rw [Nat.even_iff.1 heven]
      have hdist : (m : ℚ) + (if true then 1 / 2 else 0) + 0 - ((m + 0 : ℕ) : ℤ) = 1 / 2 := by
        push_cast
        simp
      refine ⟨by rw [hdist, abs_of_pos one_half_pos], fun _ => ?_⟩
      exact_mod_cast heven
    · rw [Nat.odd_iff.1 hodd]
      have hdist : (m : ℚ) + (if true then 1 / 2 else 0) + 0 - ((m + 1 : ℕ) : ℤ) = -(1 / 2) := by
        push_cast
        simp
        ring
      refine ⟨by rw [hdist, abs_neg, abs_of_pos one_half_pos], fun _ => ?_⟩
      exact_mod_cast hodd.add_one
  case true.true =>
    have hpos : 0 < rest := hsticky.1 rfl
    refine hclear ?_
    rw [abs_lt]
    simp only [ExtendedMantissa.roundedMantissa, ExtendedMantissa.accuracy,
      Accuracy.roundToNearestEven]
    push_cast
    constructor <;> simp <;> linarith

/-! ## The first shift -/

/-- A mantissa and an exponent as they are stored: no more than 24 digits, and as many unless the exponent
is the least. -/
def IsCanonical (m : ℕ) (e : ℤ) : Prop :=
  m < 2 ^ 24 ∧ -149 ≤ e ∧ (2 ^ 23 ≤ m ∨ e = -149)

theorem targetExponent_eq (m : ℕ) (e : ℤ) :
    Format.binary32.targetExponent (totalExponent m e) = max (m.log2 + e - 23) (-149) := by
  simp only [Format.targetExponent, totalExponent, Format.mantissaBits, Format.minExponent]
  norm_num
  omega

/-- The exponent that is aimed at is the last place of what the mantissa stands for. -/
theorem lastPlace_eq_targetExponent {m : ℕ} {e : ℤ} (hle : (m : ℚ) ≤ q) (hlt : q < m + 1)
    (he : e ≤ Format.binary32.targetExponent (totalExponent m e)) :
    lastPlace (q * 2 ^ e) = Format.binary32.targetExponent (totalExponent m e) := by
  rw [targetExponent_eq] at he ⊢
  have hpow := two_zpow_pos e
  have hq : 0 ≤ q := (Nat.cast_nonneg m).trans hle
  have habs : |q * 2 ^ e| = q * 2 ^ e := abs_of_nonneg (mul_nonneg hq hpow.le)
  apply lastPlace_eq (le_max_right _ _)
  · have hlog : (m : ℚ) + 1 ≤ 2 ^ (m.log2 + 1) := by
      exact_mod_cast Nat.lt_log2_self (n := m)
    rw [habs]
    calc q * 2 ^ e < 2 ^ (m.log2 + 1) * 2 ^ e := mul_lt_mul_of_pos_right (hlt.trans_le hlog) hpow
      _ = 2 ^ ((m.log2 : ℤ) + 1 + e) := by
          rw [zpow_add₀ two_ne_zero, ← zpow_natCast]
          push_cast
          rfl
      _ ≤ 2 ^ (max (m.log2 + e - 23) (-149) + 24) := two_zpow_le (by omega)
  · rcases Nat.eq_zero_or_pos m with rfl | hm
    · right
      simp only [Nat.log2_zero, Nat.cast_zero] at he ⊢
      omega
    · rcases le_total ((m.log2 : ℤ) + e - 23) (-149) with hlow | hhigh
      · exact .inr (max_eq_right hlow)
      · left
        have hlog : (2 : ℚ) ^ m.log2 ≤ m := by exact_mod_cast Nat.log2_self_le hm.ne'
        rw [max_eq_left hhigh, habs, sub_add_cancel, zpow_add₀ two_ne_zero, zpow_natCast]
        exact mul_le_mul_of_nonneg_right (hlog.trans hle) hpow.le

theorem mantissa_ofMantissaAndAccuracy (m : ℕ) (a : Accuracy) :
    (ExtendedMantissa.ofMantissaAndAccuracy m a).mantissa = m := by
  cases a with
  | exact => rfl
  | inexact o => cases o <;> rfl

/-- After the first shift the mantissa is rounded to the nearest one with the right last place. -/
theorem nearest_eq_firstShift {m : ℕ} {e : ℤ} {a : Accuracy}
    (h : StandsFor (.ofMantissaAndAccuracy m a) q)
    (he : e ≤ Format.binary32.targetExponent (totalExponent m e)) :
    (shiftToTargetExponent Format.binary32 m e a).2 = lastPlace (q * 2 ^ e) ∧
      ((shiftToTargetExponent Format.binary32 m e a).1.roundedMantissa : ℤ) =
        roundEven (q * 2 ^ e / 2 ^ lastPlace (q * 2 ^ e)) := by
  have hle := h.le
  have hlt := h.lt
  rw [mantissa_ofMantissaAndAccuracy] at hle hlt
  rw [lastPlace_eq_targetExponent hle hlt he]
  generalize ht : Format.binary32.targetExponent (totalExponent m e) = t at he
  have hshift : q * 2 ^ e / 2 ^ t = q / 2 ^ (t - e).toNat := by
    rw [mul_div_assoc, ← zpow_sub₀ two_ne_zero, div_eq_mul_inv, ← zpow_natCast,
      Int.toNat_of_nonneg (sub_nonneg.2 he), ← zpow_neg, neg_sub]
  rw [hshift]
  constructor
  · show e + ((Format.binary32.targetExponent (totalExponent m e) - e).toNat : ℤ) = t
    rw [ht]
    omega
  · show ((ExtendedMantissa.ofMantissaAndAccuracy m a >>>
      (Format.binary32.targetExponent (totalExponent m e) - e).toNat).roundedMantissa : ℤ) = _
    rw [ht]
    exact (h.shiftRight _).isNearest.eq_roundEven

/-! ## The second shift -/

/-- Rounding up may give a mantissa with one digit too many. It is even then, and is shifted once more. -/
theorem secondShift {r : ℕ} {t : ℤ} (hr : r ≤ 2 ^ 24) (ht : -149 ≤ t) (hfull : 2 ^ 23 ≤ r ∨ t = -149) :
    IsCanonical (shiftToTargetExponent Format.binary32 r t .exact).1.mantissa
        (shiftToTargetExponent Format.binary32 r t .exact).2 ∧
      ((shiftToTargetExponent Format.binary32 r t .exact).1.mantissa : ℚ) *
        2 ^ (shiftToTargetExponent Format.binary32 r t .exact).2 = r * 2 ^ t := by
  unfold shiftToTargetExponent
  rw [targetExponent_eq]
  rcases hr.lt_or_eq with hlt | rfl
  · have hlog : r.log2 ≤ 23 := by
      rcases Nat.eq_zero_or_pos r with rfl | hpos
      · simp
      · exact Nat.le_of_lt_succ ((Nat.log2_lt hpos.ne').2 hlt)
    have hnone : (max (r.log2 + t - 23) (-149) - t).toNat = 0 := by omega
    simp only [shiftToExponent, hnone]
    show IsCanonical r (t + (0 : ℕ)) ∧ (r : ℚ) * 2 ^ (t + (0 : ℕ)) = r * 2 ^ t
    simpa using ⟨hlt, ht, hfull⟩
  · have hone : (max (((2 ^ 24).log2 : ℤ) + t - 23) (-149) - t).toNat = 1 := by
      rw [Nat.log2_two_pow]
      omega
    simp only [shiftToExponent, hone]
    show IsCanonical (2 ^ 24 / 2) (t + (1 : ℕ)) ∧
      ((2 ^ 24 / 2 : ℕ) : ℚ) * 2 ^ (t + (1 : ℕ)) = ((2 ^ 24 : ℕ) : ℚ) * 2 ^ t
    refine ⟨⟨by norm_num, by omega, .inl (by norm_num)⟩, ?_⟩
    rw [two_zpow_add, ← mul_assoc]
    norm_num

/-! ## Results -/

/-- A result with this sign is the number nearest to `q`, if there is no largest number. -/
inductive IsRounding (s : Sign) (q : ℚ) : UnpackedFloat → Prop
  | zero : nearest q = 0 → IsRounding s q (.zero s)
  | finite {m : ℕ} {e : ℤ} {hm : 0 < m} :
    IsCanonical m e → nearest q = m * 2 ^ e → IsRounding s q (.finite s m e hm)

/-- **A mantissa is rounded to nearest**, provided that its exponent is not above the one aimed at. -/
theorem isRounding_roundWithAccuracy (s : Sign) {m : ℕ} {e : ℤ} {a : Accuracy}
    (h : StandsFor (.ofMantissaAndAccuracy m a) q)
    (he : e ≤ Format.binary32.targetExponent (totalExponent m e)) :
    IsRounding s (q * 2 ^ e) (roundWithAccuracy Format.binary32 s m e a) := by
  obtain ⟨hplace, hround⟩ := nearest_eq_firstShift h he
  have hnonneg : 0 ≤ q * 2 ^ e :=
    mul_nonneg ((Nat.cast_nonneg _).trans h.le) (two_zpow_pos e).le
  generalize hfirst : shiftToTargetExponent Format.binary32 m e a = first at hplace hround
  obtain ⟨em, t⟩ := first
  dsimp only at hplace hround
  subst hplace
  have hnearest : nearest (q * 2 ^ e) = em.roundedMantissa * 2 ^ lastPlace (q * 2 ^ e) := by
    rw [nearest, ← hround, Int.cast_natCast]
  have hpos := two_zpow_pos (lastPlace (q * 2 ^ e))
  have hupper : em.roundedMantissa ≤ 2 ^ 24 := by
    have hle := nearest_le_two_zpow (q * 2 ^ e)
    have hsplit := two_zpow_add (lastPlace (q * 2 ^ e)) 24
    rw [Nat.cast_ofNat] at hsplit
    rw [hnearest, hsplit] at hle
    exact_mod_cast le_of_mul_le_mul_right hle hpos
  have hlower : 2 ^ 23 ≤ em.roundedMantissa ∨ lastPlace (q * 2 ^ e) = -149 := by
    refine (lastPlace_le_abs (q * 2 ^ e)).imp_left fun hle => ?_
    rw [abs_of_nonneg hnonneg] at hle
    have hle := two_zpow_le_nearest hle
    have hsplit := two_zpow_add (lastPlace (q * 2 ^ e)) 23
    rw [Nat.cast_ofNat] at hsplit
    rw [hnearest, hsplit] at hle
    exact_mod_cast le_of_mul_le_mul_right hle hpos
  obtain ⟨hcanonical, hvalue⟩ := secondShift hupper (le_lastPlace _) hlower
  rw [← hnearest] at hvalue
  unfold roundWithAccuracy
  rw [hfirst]
  dsimp only
  split
  · next hzero =>
    rw [hzero, Nat.cast_zero, zero_mul] at hvalue
    exact .zero hvalue.symm
  · exact .finite hcanonical hvalue.symm

/-- Making the exponent smaller does not change the number. -/
theorem decreaseExponent_value (m : ℕ) (e t : ℤ) :
    ((decreaseExponent m e t).1 : ℚ) * 2 ^ (decreaseExponent m e t).2 = m * 2 ^ e := by
  simp only [decreaseExponent, Nat.shiftLeft_eq]
  push_cast
  rw [← zpow_natCast, mul_assoc, ← zpow_add₀ two_ne_zero, add_sub_cancel]

/-- So a mantissa may be shifted to the left until it has a given exponent below its own. -/
theorem shiftLeft_value (m : ℕ) {e t : ℤ} (h : t ≤ e) :
    ((m <<< (e - t).toNat : ℕ) : ℚ) * 2 ^ t = m * 2 ^ e := by
  have hvalue := decreaseExponent_value m e t
  have hexponent : e - (e - t).toNat = t := by omega
  simp only [decreaseExponent, hexponent] at hvalue
  exact hvalue

theorem log2_shiftLeft {m : ℕ} (hm : 0 < m) (k : ℕ) : (m <<< k).log2 = m.log2 + k := by
  have hpos : 0 < m * 2 ^ k := Nat.mul_pos hm (Nat.two_pow_pos k)
  rw [Nat.shiftLeft_eq, Nat.log2_eq_iff hpos.ne', pow_add, add_right_comm, pow_add]
  exact ⟨Nat.mul_le_mul_right _ (Nat.log2_self_le hm.ne'),
    Nat.mul_lt_mul_of_pos_right Nat.lt_log2_self (Nat.two_pow_pos k)⟩

theorem isRounding_round (s : Sign) {m : ℕ} (hm : 0 < m) (e : ℤ) :
    IsRounding s (m * 2 ^ e) (UnpackedFloat.round Format.binary32 s m e) := by
  have hvalue := decreaseExponent_value m e (Format.binary32.targetExponent (totalExponent m e))
  rw [← hvalue]
  unfold UnpackedFloat.round
  refine isRounding_roundWithAccuracy s (standsFor_exact _) ?_
  rw [targetExponent_eq, targetExponent_eq]
  simp only [decreaseExponent, log2_shiftLeft hm, Nat.cast_add]
  omega

/-- A whole number of units is rounded to nearest, with its own sign. -/
theorem isRounding_normalize {m : ℤ} (hm : m ≠ 0) (e : ℤ) (zero : Sign) :
    ∃ (s : Sign) (n : ℕ), s.apply n = m ∧
      IsRounding s (n * 2 ^ e) (UnpackedFloat.normalize Format.binary32 m e zero) := by
  unfold UnpackedFloat.normalize
  rcases hm.lt_or_gt with hneg | hpos
  · refine ⟨.negative, (-m).toNat, by simp only [Sign.apply]; omega, ?_⟩
    rw [Int.compare_eq_lt.2 hneg]
    exact isRounding_round _ (by omega) e
  · refine ⟨.positive, m.toNat, by simp only [Sign.apply]; omega, ?_⟩
    rw [Int.compare_eq_gt.2 hpos]
    exact isRounding_round _ (by omega) e

end Cutout.Single
