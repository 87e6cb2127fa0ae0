import Cutout.Proofs.Single.Value

/-!
# Arithmetic on values

The operations on single-precision numbers are operations on what they stand for: each result stands for
the rounded exact one (`value_add`, `value_sub`, `value_mul`, `value_div`). Of infinite factors, and of a
division by zero, nothing is said here.
-/

namespace Cutout.Single

open Float.Model Float.Model.UnpackedFloat

/-! ## Numbers -/

/-- A number that single precision has. -/
def IsSingle (q : ℚ) : Prop :=
  IsShort q ∧ |q| < 2 ^ 128

theorem IsSingle.rounded_eq {q : ℚ} (h : IsSingle q) : Value.rounded q = .number q := by
  have hnearest := nearest_of_isShort h.1
  rw [Value.rounded_eq_number (by rw [hnearest]; exact h.2), hnearest]

theorem isSingle_zero : IsSingle 0 := by
  refine ⟨?_, by norm_num⟩
  simpa using isShort_intCast (n := 0) (by norm_num)

theorem isSingle_natCast {n : ℕ} (h : n < 2 ^ 24) : IsSingle n := by
  refine ⟨by exact_mod_cast isShort_intCast (n := n) (by rw [Nat.abs_cast]; exact_mod_cast h), ?_⟩
  rw [Nat.abs_cast]
  calc (n : ℚ) < 2 ^ 24 := by exact_mod_cast h
    _ ≤ 2 ^ 128 := by norm_num

theorem isSingle_of_fits {s : Sign} {m : ℕ} {e : ℤ} {hm : 0 < m} (h : Fits (.finite s m e hm)) :
    IsSingle (signed s (m * 2 ^ e)) := by
  constructor
  · refine ⟨s.apply m, e, ?_, h.1.2.1, signed_mul s m _⟩
    have := h.1.1
    cases s <;> simp only [Sign.apply, abs_neg, Nat.abs_cast] <;> exact_mod_cast this
  · rw [abs_signed, abs_of_nonneg (mul_nonneg m.cast_nonneg (two_zpow_pos e).le)]
    exact h.1.lt_two_pow h.2

theorem fits_toModel (x : Float32) : Fits x.toModel.unpack :=
  fits_unpack _

/-! ## Sums -/

/-- The sum of two values. -/
def Value.add : Value → Value → Value
  | .nan, _ => .nan
  | _, .nan => .nan
  | .infinite s, .infinite t => if s == t then .infinite s else .nan
  | .infinite s, .number _ => .infinite s
  | .number _, .infinite t => .infinite t
  | .number p, .number q => .rounded (p + q)

/-- The negative of a value. -/
def Value.neg : Value → Value
  | .nan => .nan
  | .infinite s => .infinite (-s)
  | .number q => .number (-q)

/-- The difference of two values. -/
def Value.sub (x y : Value) : Value :=
  x.add y.neg

theorem packed_normalize (m e : ℤ) (zero : Sign) :
    Value.packed (UnpackedFloat.normalize Format.binary32 m e zero) = .rounded (m * 2 ^ e) := by
  rcases eq_or_ne m 0 with rfl | hm
  · rw [Int.cast_zero, zero_mul, isSingle_zero.rounded_eq]
    exact packed_of_fits (u := .zero zero) trivial
  · obtain ⟨s, n, rfl, hround⟩ := isRounding_normalize hm e zero
    rw [packed_of_isRounding hround, signed_mul]

/-- Numbers are brought to the same exponent before they are added. -/
theorem signed_decreaseExponent (s : Sign) (m : ℕ) {e t : ℤ} (h : t ≤ e) :
    ((s.apply (m <<< (e - t).toNat : ℕ) : ℤ) : ℚ) * 2 ^ t = signed s (m * 2 ^ e) := by
  rw [← signed_mul, shiftLeft_value m h]

theorem packed_notANumber : Value.packed .notANumber = .nan :=
  packed_of_fits (u := .notANumber) trivial

theorem packed_infinity (s : Sign) : Value.packed (.infinity s) = .infinite s :=
  packed_of_fits (u := .infinity s) trivial

theorem packed_zero (s : Sign) : Value.packed (.zero s) = .number 0 :=
  packed_of_fits (u := .zero s) trivial

theorem packed_add {u v : UnpackedFloat} (hu : Fits u) (hv : Fits v) :
    Value.packed (UnpackedFloat.add Format.binary32 u v) =
      (Value.ofUnpacked u).add (.ofUnpacked v) := by
  cases u with
  | notANumber => cases v <;> exact packed_notANumber
  | infinity s =>
    cases v with
    | notANumber => exact packed_notANumber
    | infinity t =>
      cases s <;> cases t
      · exact packed_infinity _
      · exact packed_notANumber
      · exact packed_notANumber
      · exact packed_infinity _
    | zero t => exact packed_infinity s
    | finite t n f hn => exact packed_infinity s
  | zero s =>
    cases v with
    | notANumber => exact packed_notANumber
    | infinity t => exact packed_infinity t
    | zero t =>
      show _ = Value.rounded (0 + 0)
      rw [add_zero, isSingle_zero.rounded_eq]
      cases s <;> cases t <;> exact packed_zero _
    | finite t n f hn =>
      show _ = Value.rounded (0 + signed t (n * 2 ^ f))
      rw [zero_add, (isSingle_of_fits hv).rounded_eq]
      exact packed_of_fits hv
  | finite s m e hm =>
    cases v with
    | notANumber => exact packed_notANumber
    | infinity t => exact packed_infinity t
    | zero t =>
      show _ = Value.rounded (signed s (m * 2 ^ e) + 0)
      rw [add_zero, (isSingle_of_fits hu).rounded_eq]
      exact packed_of_fits hu
    | finite t n f hn =>
      show Value.packed (UnpackedFloat.normalize Format.binary32 (_ + _) (min e f) .positive) =
        Value.rounded (signed s (m * 2 ^ e) + signed t (n * 2 ^ f))
      rw [packed_normalize, Int.cast_add, add_mul, signed_decreaseExponent s m (min_le_left e f),
        signed_decreaseExponent t n (min_le_right e f)]

/-- **Sums are rounded.** -/
theorem value_add (a b : Float32) : value (a + b) = (value a).add (value b) :=
  packed_add (fits_toModel a) (fits_toModel b)

theorem value_add_of_number {a b : Float32} {p q : ℚ} (hp : value a = .number p)
    (hq : value b = .number q) : value (a + b) = .rounded (p + q) := by
  rw [value_add, hp, hq]
  rfl

/-- Differences are sums with the negative. -/
theorem unpacked_sub_eq (u v : UnpackedFloat) :
    UnpackedFloat.sub Format.binary32 u v = UnpackedFloat.add Format.binary32 u v.neg := by
  cases u with
  | finite s m e hm =>
    cases v with
    | finite t n f hn =>
      cases t
      · simp only [UnpackedFloat.sub, UnpackedFloat.add, UnpackedFloat.neg, Sign.apply, sub_neg_eq_add]
      · rfl
    | _ => rfl
  | _ => cases v <;> rfl

theorem ofUnpacked_neg (u : UnpackedFloat) : Value.ofUnpacked u.neg = (Value.ofUnpacked u).neg := by
  cases u with
  | notANumber => rfl
  | infinity s => rfl
  | zero s =>
    show Value.number 0 = .number (-0)
    rw [neg_zero]
  | finite s m e hm =>
    show Value.number _ = .number _
    cases s
    · exact congrArg Value.number (neg_neg _).symm
    · rfl

theorem fits_neg {u : UnpackedFloat} (h : Fits u) : Fits u.neg := by
  cases u <;> exact h

/-- **Differences are rounded.** -/
theorem value_sub (a b : Float32) : value (a - b) = (value a).sub (value b) := by
  show Value.packed (UnpackedFloat.sub Format.binary32 a.toModel.unpack b.toModel.unpack) = _
  rw [unpacked_sub_eq, packed_add (fits_toModel a) (fits_neg (fits_toModel b)), ofUnpacked_neg]
  rfl

theorem value_sub_of_number {a b : Float32} {p q : ℚ} (hp : value a = .number p)
    (hq : value b = .number q) : value (a - b) = .rounded (p - q) := by
  rw [value_sub, hp, hq, sub_eq_add_neg]
  rfl

/-- A difference is a number only between numbers, and if it is not too large. -/
theorem Value.sub_eq_number {x y : Value} {d : ℚ} (h : x.sub y = .number d) :
    ∃ p q, x = .number p ∧ y = .number q ∧ |nearest (p - q)| < 2 ^ 128 ∧ nearest (p - q) = d := by
  cases x with
  | nan => cases y <;> cases h
  | infinite s =>
    cases y with
    | infinite t => cases s <;> cases t <;> cases h
    | _ => cases h
  | number p =>
    cases y with
    | number q =>
      have hrounded : Value.rounded (p - q) = .number d := by
        rw [sub_eq_add_neg]
        exact h
      exact ⟨p, q, rfl, rfl, rounded_eq_number_iff.1 hrounded⟩
    | _ => cases h

/-! ## Products and quotients -/

theorem signed_mul_signed (s t : Sign) (p q : ℚ) : signed s p * signed t q = signed (s * t) (p * q) := by
  cases s <;> cases t
  · exact neg_mul_neg p q
  · exact neg_mul p q
  · exact mul_neg p q
  · rfl

theorem signed_div_signed (s t : Sign) (p q : ℚ) : signed s p / signed t q = signed (s / t) (p / q) := by
  cases s <;> cases t
  · exact neg_div_neg_eq p q
  · exact neg_div q p
  · exact div_neg p
  · rfl

/-- Of two numbers as they are stored, the product has digits enough, or its last place is far behind
the last of all. -/
theorem le_targetExponent_mul {m n : ℕ} {e f : ℤ} (hm : 0 < m) (hn : 0 < n) (hu : IsCanonical m e)
    (hv : IsCanonical n f) :
    e + f ≤ Format.binary32.targetExponent (totalExponent (m * n) (e + f)) := by
  rw [targetExponent_eq]
  have hdigits : 23 ≤ (m * n).log2 ∨ e + f ≤ -149 := by
    have hmn := Nat.mul_pos hm hn
    rcases hu.2.2 with hfull | rfl
    · left
      exact (Nat.le_log2 hmn.ne').2 (hfull.trans (Nat.le_mul_of_pos_right m hn))
    · rcases hv.2.2 with hfull | rfl
      · left
        exact (Nat.le_log2 hmn.ne').2 (hfull.trans (Nat.le_mul_of_pos_left n hm))
      · right
        norm_num
  omega

theorem packed_mul {u v : UnpackedFloat} {p q : ℚ} (hu : Fits u) (hv : Fits v)
    (hp : Value.ofUnpacked u = .number p) (hq : Value.ofUnpacked v = .number q) :
    Value.packed (UnpackedFloat.mul Format.binary32 u v) = .rounded (p * q) := by
  cases u with
  | notANumber => cases hp
  | infinity s => cases hp
  | zero s =>
    cases hp
    rw [zero_mul, isSingle_zero.rounded_eq]
    cases v with
    | notANumber => cases hq
    | infinity t => cases hq
    | zero t => exact packed_zero _
    | finite t n f hn => exact packed_zero _
  | finite s m e hm =>
    cases v with
    | notANumber => cases hq
    | infinity t => cases hq
    | zero t =>
      cases hq
      rw [mul_zero, isSingle_zero.rounded_eq]
      exact packed_zero _
    | finite t n f hn =>
      cases hp
      cases hq
      have hround := isRounding_roundWithAccuracy (s * t) (standsFor_exact (m * n))
        (le_targetExponent_mul hm hn hu.1 hv.1)
      have hexact : ((m * n : ℕ) : ℚ) * 2 ^ (e + f) = m * 2 ^ e * (n * 2 ^ f) := by
        rw [zpow_add₀ two_ne_zero]
        push_cast
        ring
      rw [signed_mul_signed, ← hexact]
      exact packed_of_isRounding hround

/-- **Products are rounded.** -/
theorem value_mul {a b : Float32} {p q : ℚ} (hp : value a = .number p) (hq : value b = .number q) :
    value (a * b) = .rounded (p * q) :=
  packed_mul (fits_toModel a) (fits_toModel b) hp hq

theorem value_mul_of_nan {a : Float32} (h : value a = .nan) (b : Float32) : value (a * b) = .nan := by
  show Value.packed (UnpackedFloat.mul Format.binary32 a.toModel.unpack b.toModel.unpack) = _
  rw [Value.ofUnpacked_eq_nan.1 h]
  exact packed_notANumber

/-- The quotient of two mantissas has almost as many digits as there are more in the first. -/
theorem log2_le_log2_div {m n : ℕ} (hn : 0 < n) : m.log2 ≤ (m / n).log2 + n.log2 + 1 := by
  rcases Nat.eq_zero_or_pos m with rfl | hm
  · simp
  · refine Nat.le_of_lt_succ ((Nat.log2_lt hm.ne').2 ?_)
    have hquot : m / n + 1 ≤ 2 ^ ((m / n).log2 + 1) := Nat.lt_log2_self
    have hden : n ≤ 2 ^ (n.log2 + 1) := Nat.lt_log2_self.le
    calc m < n * (m / n + 1) := Nat.lt_mul_div_succ m hn
      _ ≤ 2 ^ (n.log2 + 1) * 2 ^ ((m / n).log2 + 1) := Nat.mul_le_mul hden hquot
      _ = 2 ^ ((m / n).log2 + n.log2 + 1 + 1) := by
          rw [← pow_add]
          congr 1
          omega

/-- What is left of a division says how far the quotient is from a whole number. -/
theorem standsFor_accuracyOfFraction (m : ℕ) {n : ℕ} (hn : 0 < n) :
    StandsFor (.ofMantissaAndAccuracy (m / n) (accuracyOfFraction (m % n) n)) (m / n : ℚ) := by
  have hpos : (0 : ℚ) < n := by exact_mod_cast hn
  have hsplit : (m / n : ℚ) = (m / n : ℕ) + (m % n : ℕ) / n := by
    have : (m : ℚ) = n * (m / n : ℕ) + (m % n : ℕ) := by exact_mod_cast (Nat.div_add_mod m n).symm
    field_simp
    linarith
  have hrest : ((m % n : ℕ) : ℚ) / n < 1 := by
    rw [div_lt_one hpos]
    exact_mod_cast Nat.mod_lt m hn
  have hnonneg : (0 : ℚ) ≤ (m % n : ℕ) / n := div_nonneg (Nat.cast_nonneg _) hpos.le
  rw [hsplit]
  generalize m % n = r at hrest hnonneg
  -- the rest is zero, or on one side of a half, or a half itself
  unfold accuracyOfFraction
  split
  · next hzero =>
    subst hzero
    simpa using standsFor_exact (m / n)
  · next hzero =>
    have hr : (0 : ℚ) < r / n := div_pos (by exact_mod_cast Nat.pos_of_ne_zero hzero) hpos
    rcases lt_trichotomy (2 * r) n with hlt | heq | hgt
    · rw [Nat.compare_eq_lt.2 hlt]
      have hhalf : (r : ℚ) / n < 1 / 2 := by
        rw [div_lt_div_iff₀ hpos two_pos]
        have : ((2 * r : ℕ) : ℚ) < n := by exact_mod_cast hlt
        push_cast at this
        linarith
      exact ⟨r / n, hr.le, hhalf, by simpa [ExtendedMantissa.ofMantissaAndAccuracy] using hr,
        by simp [ExtendedMantissa.ofMantissaAndAccuracy]⟩
    · rw [Nat.compare_eq_eq.2 heq]
      have hhalf : (r : ℚ) / n = 1 / 2 := by
        rw [div_eq_div_iff hpos.ne' two_ne_zero]
        have : ((2 * r : ℕ) : ℚ) = n := by exact_mod_cast heq
        push_cast at this
        linarith
      exact ⟨0, le_rfl, one_half_pos, by simp [ExtendedMantissa.ofMantissaAndAccuracy],
        by simp [ExtendedMantissa.ofMantissaAndAccuracy, hhalf]⟩
    · rw [Nat.compare_eq_gt.2 hgt]
      have hhalf : 1 / 2 < (r : ℚ) / n := by
        rw [div_lt_div_iff₀ two_pos hpos]
        have : (n : ℚ) < (2 * r : ℕ) := by exact_mod_cast hgt
        push_cast at this
        linarith
      refine ⟨r / n - 1 / 2, by linarith, by linarith, ?_, ?_⟩
      · simpa [ExtendedMantissa.ofMantissaAndAccuracy] using hhalf
      · simp only [ExtendedMantissa.ofMantissaAndAccuracy, if_true]
        ring

theorem isRounding_divCore (s : Sign) {m n : ℕ} (e f : ℤ) (hm : 0 < m) (hn : 0 < n) :
    IsRounding s (m * 2 ^ e / (n * 2 ^ f)) (roundWithAccuracy Format.binary32 s
      (divCore Format.binary32 m e n f).1 (divCore Format.binary32 m e n f).2.1
      (divCore Format.binary32 m e n f).2.2) := by
  unfold divCore
  dsimp only
  generalize ht : min (e - f) (Format.binary32.targetExponent (totalExponent m e - totalExponent n f)) = t
  have htarget : Format.binary32.targetExponent (totalExponent m e - totalExponent n f) =
      max ((m.log2 : ℤ) - n.log2 + e - f - 24) (-149) := by
    simp only [Format.targetExponent, totalExponent, Format.mantissaBits, Format.minExponent]
    norm_num
    omega
  rw [htarget] at ht
  -- the first mantissa is shifted until the quotient has digits enough
  have hexact : ((m <<< (e - f - t).toNat : ℕ) : ℚ) / n * 2 ^ t = m * 2 ^ e / (n * 2 ^ f) := by
    rw [div_mul_eq_mul_div, shiftLeft_value m (by omega), zpow_sub₀ two_ne_zero, ← mul_div_assoc, div_div,
      mul_comm (n : ℚ)]
  rw [← hexact]
  refine isRounding_roundWithAccuracy s (standsFor_accuracyOfFraction _ hn) ?_
  have hlog := log2_le_log2_div (m := m <<< (e - f - t).toNat) hn
  rw [log2_shiftLeft hm] at hlog
  rw [targetExponent_eq]
  omega

/-- **Quotients are rounded.** -/
theorem packed_div {u v : UnpackedFloat} {p q : ℚ} (hp : Value.ofUnpacked u = .number p)
    (hq : Value.ofUnpacked v = .number q) (hzero : q ≠ 0) :
    Value.packed (UnpackedFloat.div Format.binary32 u v) = .rounded (p / q) := by
  cases v with
  | notANumber => cases hq
  | infinity t => cases hq
  | zero t =>
    cases hq
    exact absurd rfl hzero
  | finite t n f hn =>
    cases u with
    | notANumber => cases hp
    | infinity s => cases hp
    | zero s =>
      cases hp
      rw [zero_div, isSingle_zero.rounded_eq]
      exact packed_zero _
    | finite s m e hm =>
      cases hp
      cases hq
      rw [signed_div_signed]
      exact packed_of_isRounding (isRounding_divCore (s / t) e f hm hn)

theorem value_div {a b : Float32} {p q : ℚ} (hp : value a = .number p) (hq : value b = .number q)
    (hzero : q ≠ 0) : value (a / b) = .rounded (p / q) :=
  packed_div hp hq hzero

theorem value_div_of_nan {a : Float32} (h : value a = .nan) (b : Float32) : value (a / b) = .nan := by
  show Value.packed (UnpackedFloat.div Format.binary32 a.toModel.unpack b.toModel.unpack) = _
  rw [Value.ofUnpacked_eq_nan.1 h]
  exact packed_notANumber

/-- A quotient by what is infinite is zero, or it is not a number. -/
theorem value_div_of_infinite (a : Float32) {b : Float32} {t : Sign} (h : value b = .infinite t) :
    value (a / b) = .number 0 ∨ value (a / b) = .nan := by
  show Value.packed (UnpackedFloat.div Format.binary32 a.toModel.unpack b.toModel.unpack) = _ ∨
    Value.packed (UnpackedFloat.div Format.binary32 a.toModel.unpack b.toModel.unpack) = _
  unfold value at h
  generalize b.toModel.unpack = v at h
  cases v with
  | infinity t =>
    cases a.toModel.unpack with
    | notANumber => exact .inr packed_notANumber
    | infinity s => exact .inr packed_notANumber
    | zero s => exact .inl (packed_zero _)
    | finite s m e hm => exact .inl (packed_zero _)
  | _ => cases h

end Cutout.Single
