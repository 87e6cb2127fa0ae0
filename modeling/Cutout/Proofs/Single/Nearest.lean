import Mathlib.Algebra.Order.Round
import Mathlib.Data.Int.Log
import Mathlib.Data.Rat.Floor
import Mathlib.Tactic.Linarith
import Mathlib.Tactic.Ring

/-!
# Rounding to nearest

A single-precision number has 24 binary digits, and none of them stands behind place `-149`. An exact
result is rounded to the nearest multiple of the power of two that leaves so many digits; of two nearest
ones the even multiple is taken. `nearest` does this as if there were no largest number. It is odd
(`nearest_neg`) and monotone (`nearest_mono`), and leaves alone what has no more digits than that
(`nearest_of_isShort`).
-/

namespace Cutout.Single

/-! ## Whole numbers -/

/-- `n` is the whole number nearest to `q`, and even if there are two of them. -/
def IsNearest (q : ℚ) (n : ℤ) : Prop :=
  |q - n| ≤ 1 / 2 ∧ (|q - n| = 1 / 2 → Even n)

/-- The whole number nearest to `q`, the even one of two. -/
def roundEven (q : ℚ) : ℤ :=
  if |q - round q| = 1 / 2 ∧ ¬Even (round q) then round q - 1 else round q

theorem isNearest_intCast (n : ℤ) : IsNearest n n := by
  simp [IsNearest]

theorem IsNearest.neg {q : ℚ} {n : ℤ} (h : IsNearest q n) : IsNearest (-q) (-n) := by
  have hflip : -q - ((-n : ℤ) : ℚ) = -(q - n) := by
    push_cast
    ring
  unfold IsNearest
  rw [hflip, abs_neg, even_neg]
  exact h

/-- A larger number has no smaller nearest whole number. If it had, both would stand in the middle
between the same two, and both of these would be even. -/
theorem IsNearest.mono {p q : ℚ} {m n : ℤ} (hp : IsNearest p m) (hq : IsNearest q n) (h : p ≤ q) :
    m ≤ n := by
  by_contra hlt
  have hstep : (n : ℚ) + 1 ≤ m := by exact_mod_cast not_le.1 hlt
  have hpm := (abs_le.1 hp.1).1
  have hqn := (abs_le.1 hq.1).2
  have hm : m = n + 1 := by
    have : (m : ℚ) = n + 1 := by linarith
    exact_mod_cast this
  have hpmid : p - m = -(1 / 2) := by linarith
  have hqmid : q - n = 1 / 2 := by linarith
  have hevenm : Even m := hp.2 (by rw [hpmid, abs_neg, abs_of_pos one_half_pos])
  have hevenn : Even n := hq.2 (by rw [hqmid, abs_of_pos one_half_pos])
  rw [hm] at hevenm
  exact Int.not_even_iff_odd.2 hevenn.add_one hevenm

theorem IsNearest.unique {q : ℚ} {m n : ℤ} (hm : IsNearest q m) (hn : IsNearest q n) : m = n :=
  le_antisymm (hm.mono hn le_rfl) (hn.mono hm le_rfl)

theorem isNearest_roundEven (q : ℚ) : IsNearest q (roundEven q) := by
  have hdist : |q - round q| ≤ 1 / 2 := abs_sub_round q
  unfold roundEven
  split
  · next hmid =>
    -- `round` goes up from the middle, so the other neighbour is the one below
    have hup : q - round q < 1 / 2 := by
      have := Int.lt_floor_add_one (q + 1 / 2)
      rw [← round_eq] at this
      linarith
    have hbelow : q - round q = -(1 / 2) := by
      rcases abs_choice (q - round q) with habs | habs
      · have := hmid.1
        linarith
      · have := hmid.1
        linarith
    have habove : q - ((round q - 1 : ℤ) : ℚ) = 1 / 2 := by
      push_cast
      linarith
    refine ⟨by rw [habove, abs_of_pos one_half_pos], fun _ => ?_⟩
    rw [Int.even_sub_one]
    exact hmid.2
  · next hmid => exact ⟨hdist, fun htie => not_not.1 fun hodd => hmid ⟨htie, hodd⟩⟩

theorem IsNearest.eq_roundEven {q : ℚ} {n : ℤ} (h : IsNearest q n) : n = roundEven q :=
  h.unique (isNearest_roundEven q)

theorem roundEven_intCast (n : ℤ) : roundEven n = n :=
  (isNearest_intCast n).eq_roundEven.symm

theorem roundEven_neg (q : ℚ) : roundEven (-q) = -roundEven q :=
  (isNearest_roundEven q).neg.eq_roundEven.symm

theorem roundEven_mono {p q : ℚ} (h : p ≤ q) : roundEven p ≤ roundEven q :=
  (isNearest_roundEven p).mono (isNearest_roundEven q) h

/-! ## The last place -/

/-- The place of the last of the digits that are kept of `q`. -/
def lastPlace (q : ℚ) : ℤ :=
  if q = 0 then -149 else max (Int.log 2 |q| - 23) (-149)

theorem two_zpow_pos (e : ℤ) : (0 : ℚ) < 2 ^ e :=
  zpow_pos two_pos e

theorem two_zpow_le {d e : ℤ} (h : d ≤ e) : (2 : ℚ) ^ d ≤ 2 ^ e :=
  zpow_le_zpow_right₀ one_le_two h

theorem lt_of_two_zpow_lt {d e : ℤ} (h : (2 : ℚ) ^ d < 2 ^ e) : d < e :=
  (zpow_lt_zpow_iff_right₀ one_lt_two).1 h

theorem two_zpow_add (e : ℤ) (k : ℕ) : (2 : ℚ) ^ (e + k) = ((2 ^ k : ℤ) : ℚ) * 2 ^ e := by
  rw [zpow_add₀ two_ne_zero, zpow_natCast, mul_comm, Int.cast_pow, Int.cast_ofNat]

theorem le_lastPlace (q : ℚ) : -149 ≤ lastPlace q := by
  unfold lastPlace
  split
  · exact le_rfl
  · exact le_max_right _ _

theorem abs_lt_lastPlace (q : ℚ) : |q| < 2 ^ (lastPlace q + 24) := by
  unfold lastPlace
  split
  · next hzero =>
    rw [hzero, abs_zero]
    exact two_zpow_pos _
  · calc |q| < 2 ^ (Int.log 2 |q| + 1) := by exact_mod_cast Int.lt_zpow_succ_log_self one_lt_two |q|
      _ ≤ 2 ^ (max (Int.log 2 |q| - 23) (-149) + 24) := two_zpow_le (by omega)

/-- All 24 digits are used, unless the last place is the last of all. -/
theorem lastPlace_le_abs (q : ℚ) : 2 ^ (lastPlace q + 23) ≤ |q| ∨ lastPlace q = -149 := by
  unfold lastPlace
  split
  · exact .inr rfl
  · next hzero =>
    rcases le_total (Int.log 2 |q| - 23) (-149) with hlow | hhigh
    · exact .inr (max_eq_right hlow)
    · left
      rw [max_eq_left hhigh, sub_add_cancel]
      exact_mod_cast Int.zpow_log_le_self one_lt_two (abs_pos.2 hzero)

/-- The last place is the only one with these bounds. -/
theorem lastPlace_eq {q : ℚ} {e : ℤ} (hlow : -149 ≤ e) (hlt : |q| < 2 ^ (e + 24))
    (hle : 2 ^ (e + 23) ≤ |q| ∨ e = -149) : lastPlace q = e := by
  have hlast := le_lastPlace q
  have hcompare : ∀ d f : ℤ, (2 : ℚ) ^ (d + 23) ≤ |q| → |q| < 2 ^ (f + 24) → d ≤ f := by
    intro d f hd hf
    have := lt_of_two_zpow_lt (hd.trans_lt hf)
    omega
  apply le_antisymm
  · rcases lastPlace_le_abs q with h | h
    · exact hcompare _ _ h hlt
    · omega
  · rcases hle with h | h
    · exact hcompare _ _ h (abs_lt_lastPlace q)
    · omega

theorem lastPlace_neg (q : ℚ) : lastPlace (-q) = lastPlace q := by
  simp [lastPlace]

theorem lastPlace_mono {p q : ℚ} (h : |p| ≤ |q|) : lastPlace p ≤ lastPlace q := by
  rcases lastPlace_le_abs p with hp | hp
  · have := lt_of_two_zpow_lt ((hp.trans h).trans_lt (abs_lt_lastPlace q))
    omega
  · rw [hp]
    exact le_lastPlace q

/-! ## Numbers of 24 digits -/

/-- The number of 24 digits nearest to `q`. -/
def nearest (q : ℚ) : ℚ :=
  roundEven (q / 2 ^ lastPlace q) * 2 ^ lastPlace q

/-- A number that has no more than 24 digits, and none behind place `-149`. -/
def IsShort (q : ℚ) : Prop :=
  ∃ n e : ℤ, |n| < 2 ^ 24 ∧ -149 ≤ e ∧ q = n * 2 ^ e

theorem nearest_neg (q : ℚ) : nearest (-q) = -nearest q := by
  unfold nearest
  rw [lastPlace_neg, neg_div, roundEven_neg]
  push_cast
  ring

theorem nearest_of_isShort {q : ℚ} (h : IsShort q) : nearest q = q := by
  obtain ⟨n, e, hn, he, rfl⟩ := h
  have habs : |(n : ℚ) * 2 ^ e| < 2 ^ (e + 24) := by
    rw [abs_mul, abs_of_pos (two_zpow_pos e), zpow_add₀ two_ne_zero, mul_comm]
    refine mul_lt_mul_of_pos_left ?_ (two_zpow_pos e)
    rw [← Int.cast_abs]
    exact_mod_cast hn
  have hplace : lastPlace ((n : ℚ) * 2 ^ e) ≤ e := by
    rcases lastPlace_le_abs ((n : ℚ) * 2 ^ e) with h | h
    · have := lt_of_two_zpow_lt (h.trans_lt habs)
      omega
    · omega
  -- so it is a multiple of its last place
  have hwhole : (n : ℚ) * 2 ^ e / 2 ^ lastPlace ((n : ℚ) * 2 ^ e) =
      ((n * 2 ^ (e - lastPlace ((n : ℚ) * 2 ^ e)).toNat : ℤ) : ℚ) := by
    rw [mul_div_assoc, ← zpow_sub₀ two_ne_zero]
    push_cast
    rw [← zpow_natCast, Int.toNat_of_nonneg (by omega)]
  unfold nearest
  rw [hwhole, roundEven_intCast, ← hwhole, div_mul_cancel₀ _ (two_zpow_pos _).ne']

theorem isShort_intCast {n : ℤ} (h : |n| < 2 ^ 24) : IsShort n :=
  ⟨n, 0, h, by omega, by simp⟩

theorem nearest_zero : nearest 0 = 0 := by
  simpa using nearest_of_isShort (isShort_intCast (n := 0) (by norm_num))

theorem nearest_one : nearest 1 = 1 := by
  simpa using nearest_of_isShort (isShort_intCast (n := 1) (by norm_num))

/-- Powers of two are boundaries: nothing is rounded across one. -/
theorem isShort_two_zpow {e : ℤ} (h : -149 ≤ e) : IsShort (2 ^ e) :=
  ⟨1, e, by norm_num, h, by simp⟩

theorem roundEven_le_of_le {q : ℚ} {n : ℤ} (h : q ≤ n) : roundEven q ≤ n :=
  (roundEven_mono h).trans_eq (roundEven_intCast n)

theorem le_roundEven_of_le {q : ℚ} {n : ℤ} (h : (n : ℚ) ≤ q) : n ≤ roundEven q :=
  (roundEven_intCast n).symm.trans_le (roundEven_mono h)

theorem nearest_nonneg {q : ℚ} (h : 0 ≤ q) : 0 ≤ nearest q := by
  have hround : 0 ≤ roundEven (q / 2 ^ lastPlace q) :=
    le_roundEven_of_le (by simpa using div_nonneg h (two_zpow_pos _).le)
  have hcast : (0 : ℚ) ≤ roundEven (q / 2 ^ lastPlace q) := by exact_mod_cast hround
  exact mul_nonneg hcast (two_zpow_pos _).le

theorem nearest_nonpos {q : ℚ} (h : q ≤ 0) : nearest q ≤ 0 := by
  have hneg := nearest_nonneg (neg_nonneg.2 h)
  rw [nearest_neg] at hneg
  exact neg_nonneg.1 hneg

/-- The rounded number is not above the power of two above the number. -/
theorem nearest_le_two_zpow (q : ℚ) : nearest q ≤ 2 ^ (lastPlace q + 24) := by
  have hquot : q / 2 ^ lastPlace q ≤ ((2 ^ 24 : ℤ) : ℚ) := by
    rw [div_le_iff₀ (two_zpow_pos _), ← two_zpow_add]
    exact (le_abs_self q).trans (abs_lt_lastPlace q).le
  have hround : (roundEven (q / 2 ^ lastPlace q) : ℚ) ≤ ((2 ^ 24 : ℤ) : ℚ) := by
    exact_mod_cast roundEven_le_of_le hquot
  calc nearest q ≤ ((2 ^ 24 : ℤ) : ℚ) * 2 ^ lastPlace q :=
        mul_le_mul_of_nonneg_right hround (two_zpow_pos _).le
    _ = 2 ^ (lastPlace q + 24) := (two_zpow_add _ 24).symm

/-- The rounded number is not below the power of two below the number. -/
theorem two_zpow_le_nearest {q : ℚ} (h : 2 ^ (lastPlace q + 23) ≤ q) :
    2 ^ (lastPlace q + 23) ≤ nearest q := by
  have hsplit : (2 : ℚ) ^ (lastPlace q + 23) = ((2 ^ 23 : ℤ) : ℚ) * 2 ^ lastPlace q :=
    two_zpow_add _ 23
  have hquot : ((2 ^ 23 : ℤ) : ℚ) ≤ q / 2 ^ lastPlace q := by
    rw [le_div_iff₀ (two_zpow_pos _), ← hsplit]
    exact h
  have hround : ((2 ^ 23 : ℤ) : ℚ) ≤ roundEven (q / 2 ^ lastPlace q) := by
    exact_mod_cast le_roundEven_of_le hquot
  rw [hsplit]
  exact mul_le_mul_of_nonneg_right hround (two_zpow_pos _).le

theorem nearest_mono_of_nonneg {p q : ℚ} (hp : 0 ≤ p) (h : p ≤ q) : nearest p ≤ nearest q := by
  have habs : |p| ≤ |q| := by rwa [abs_of_nonneg hp, abs_of_nonneg (hp.trans h)]
  rcases (lastPlace_mono habs).lt_or_eq with hlt | heq
  · -- a power of two stands between the two, and no number is rounded across it
    have hlow := le_lastPlace p
    have hq : 2 ^ (lastPlace q + 23) ≤ q := by
      rcases lastPlace_le_abs q with h' | h'
      · rwa [abs_of_nonneg (hp.trans h)] at h'
      · omega
    calc nearest p ≤ 2 ^ (lastPlace p + 24) := nearest_le_two_zpow p
      _ ≤ 2 ^ (lastPlace q + 23) := two_zpow_le (by omega)
      _ ≤ nearest q := two_zpow_le_nearest hq
  · unfold nearest
    rw [heq]
    have hround : (roundEven (p / 2 ^ lastPlace q) : ℚ) ≤ roundEven (q / 2 ^ lastPlace q) := by
      exact_mod_cast roundEven_mono (div_le_div_of_nonneg_right h (two_zpow_pos _).le)
    exact mul_le_mul_of_nonneg_right hround (two_zpow_pos _).le

/-- **Rounding is monotone.** -/
theorem nearest_mono {p q : ℚ} (h : p ≤ q) : nearest p ≤ nearest q := by
  rcases le_total 0 p with hp | hp
  · exact nearest_mono_of_nonneg hp h
  · rcases le_total 0 q with hq | hq
    · exact (nearest_nonpos hp).trans (nearest_nonneg hq)
    · have hneg := nearest_mono_of_nonneg (neg_nonneg.2 hq) (neg_le_neg h)
      rw [nearest_neg, nearest_neg] at hneg
      exact neg_le_neg_iff.1 hneg

theorem nearest_le_of_isShort {q r : ℚ} (hr : IsShort r) (h : q ≤ r) : nearest q ≤ r :=
  (nearest_mono h).trans_eq (nearest_of_isShort hr)

theorem abs_nearest_le_of_isShort {q r : ℚ} (hr : IsShort r) (h : |q| ≤ r) : |nearest q| ≤ r := by
  obtain ⟨hlow, hhigh⟩ := abs_le.1 h
  refine abs_le.2 ⟨?_, nearest_le_of_isShort hr hhigh⟩
  have := nearest_le_of_isShort hr (neg_le.1 hlow)
  rw [nearest_neg] at this
  exact neg_le.1 this

end Cutout.Single
