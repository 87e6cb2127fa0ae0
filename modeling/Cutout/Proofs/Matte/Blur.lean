import Cutout.Matte.Blur
import Cutout.Proofs.Matte.Opening
import Cutout.Proofs.Single.Order

/-!
# Blurring mattes

A blurred pixel is a sum of products of samples with weights from 0 to 1, each of them rounded. Rounding
is monotone, and none of the sums is too large for single precision, so that blurring keeps the order of
mattes (`blur_mono`). A pixel is a weighted sum of the pixels up to five steps away (`get?_blur`), and a
matte of one value is a fixed point if the weights keep that value (`blur_fill`).
-/

namespace Cutout

theorem Raster.get?_fill {α : Type} (w h : ℕ) (a : α) (x y : ℕ) :
    (Raster.fill w h a).get? x y = if x < w ∧ y < h then some a else none := by
  by_cases hb : x < w ∧ y < h
  · simp [Raster.get?, Raster.fill, hb, Raster.index_lt hb.1 hb.2]
  · simp [Raster.get?, Raster.fill, hb]

namespace Matte

open Cutout.Single

/-! ## Sums and products of samples -/

/-- Two numbers in this order, from zero to a power of two. -/
def AtMost (b : ℕ) (x y : Float32) : Prop :=
  ∃ p q, value x = .number p ∧ value y = .number q ∧ 0 ≤ p ∧ p ≤ q ∧ q ≤ 2 ^ b

theorem AtMost.weaken {b c : ℕ} {x y : Float32} (h : AtMost b x y) (hbc : b ≤ c) : AtMost c x y := by
  obtain ⟨p, q, hp, hq, hnonneg, hle, hbound⟩ := h
  exact ⟨p, q, hp, hq, hnonneg, hle, hbound.trans (pow_le_pow_right₀ one_le_two hbc)⟩

/-- Rounding keeps the order and the bound. -/
theorem atMost_of_rounded {b : ℕ} {x y : Float32} {p q : ℚ} (hb : b < 128)
    (hp : value x = .rounded p) (hq : value y = .rounded q) (hnonneg : 0 ≤ p) (hle : p ≤ q)
    (hbound : q ≤ 2 ^ b) : AtMost b x y := by
  have hshort : IsShort (2 ^ b : ℚ) := by
    have := isShort_two_zpow (e := b) (by omega)
    rwa [zpow_natCast] at this
  have hlt : (2 : ℚ) ^ b < 2 ^ 128 := pow_lt_pow_right₀ one_lt_two hb
  have hqle : nearest q ≤ 2 ^ b := nearest_le_of_isShort hshort hbound
  have hple : nearest p ≤ nearest q := nearest_mono hle
  have hpnonneg : 0 ≤ nearest p := nearest_nonneg hnonneg
  refine ⟨nearest p, nearest q, ?_, ?_, hpnonneg, hple, hqle⟩
  · rw [hp, Value.rounded_of_nonneg hpnonneg ((hple.trans hqle).trans_lt hlt)]
  · rw [hq, Value.rounded_of_nonneg (hpnonneg.trans hple) (hqle.trans_lt hlt)]

theorem AtMost.add {b : ℕ} {x y x' y' : Float32} (h : AtMost b x y) (h' : AtMost b x' y')
    (hb : b < 127) : AtMost (b + 1) (x + x') (y + y') := by
  obtain ⟨p, q, hp, hq, hnonneg, hle, hbound⟩ := h
  obtain ⟨p', q', hp', hq', hnonneg', hle', hbound'⟩ := h'
  refine atMost_of_rounded (by omega) (value_add_of_number hp hp') (value_add_of_number hq hq')
    (add_nonneg hnonneg hnonneg') (add_le_add hle hle') ?_
  rw [pow_succ]
  linarith

/-- A weight is a number from zero to one. -/
def IsWeight (w : Float32) : Prop :=
  ∃ r, value w = .number r ∧ 0 ≤ r ∧ r ≤ 1

theorem AtMost.mul {b : ℕ} {x y w : Float32} (h : AtMost b x y) (hw : IsWeight w) (hb : b < 128) :
    AtMost b (x * w) (y * w) := by
  obtain ⟨p, q, hp, hq, hnonneg, hle, hbound⟩ := h
  obtain ⟨r, hr, hr0, hr1⟩ := hw
  refine atMost_of_rounded hb (value_mul hp hr) (value_mul hq hr) (mul_nonneg hnonneg hr0)
    (mul_le_mul_of_nonneg_right hle hr0) ?_
  exact (mul_le_of_le_one_right (hnonneg.trans hle) hr1).trans hbound

theorem isWeight_of_le {w : Float32} (h : UInt8.toFloat32 0 ≤ w ∧ w ≤ UInt8.toFloat32 1) : IsWeight w := by
  obtain ⟨r, hr, hr0, hr1⟩ := exists_value_of_le (value_toFloat32 0) (value_toFloat32 1) h.1 h.2
  exact ⟨r, hr, by simpa using hr0, by simpa using hr1⟩

theorem isWeight_of_mem {w : Float32}
    (h : w ∈ [weight0, weight1, weight2, weight3, weight4, weight5]) : IsWeight w := by
  have hall : ∀ w ∈ [weight0, weight1, weight2, weight3, weight4, weight5],
      UInt8.toFloat32 0 ≤ w ∧ w ≤ UInt8.toFloat32 1 := by decide +kernel
  exact isWeight_of_le (hall w h)

/-- **Weighing is monotone.** The sum of eleven products has at most six more binary digits. -/
theorem AtMost.weigh {b : ℕ} {p q : ℕ → Float32} (h : ∀ k, AtMost b (p k) (q k)) (hb : b < 121) :
    AtMost (b + 6) (weigh p) (weigh q) := by
  have hpair : ∀ i j w, w ∈ [weight0, weight1, weight2, weight3, weight4, weight5] →
      AtMost (b + 1) ((p i + p j) * w) ((q i + q j) * w) :=
    fun i j w hw => ((h i).add (h j) (by omega)).mul (isWeight_of_mem hw) (by omega)
  have h0 : AtMost (b + 1) (p 5 * weight0) (q 5 * weight0) :=
    ((h 5).mul (isWeight_of_mem (by simp)) (by omega)).weaken (by omega)
  have h5 := h0.add (hpair 0 10 weight5 (by simp)) (by omega)
  have h4 := h5.add ((hpair 1 9 weight4 (by simp)).weaken (by omega)) (by omega)
  have h3 := h4.add ((hpair 2 8 weight3 (by simp)).weaken (by omega)) (by omega)
  have h2 := h3.add ((hpair 3 7 weight2 (by simp)).weaken (by omega)) (by omega)
  exact h2.add ((hpair 4 6 weight1 (by simp)).weaken (by omega)) (by omega)

theorem atMost_toFloat32 {u v : UInt8} (h : u ≤ v) : AtMost 8 u.toFloat32 v.toFloat32 := by
  refine ⟨u.toNat, v.toNat, value_toFloat32 u, value_toFloat32 v, Nat.cast_nonneg _, ?_, ?_⟩
  · exact_mod_cast UInt8.le_iff_toNat_le.1 h
  · exact_mod_cast v.toNat_lt.le

/-! ## Rounding to samples -/

theorem exists_value_half : ∃ half, value 0.5 = .number half :=
  isFinite_iff.1 (by decide +kernel)

/-- The nearest sample is the whole part of a number, or one more if what is behind it is a half. -/
theorem toNat_nearestSample {x : Float32} {p half : ℚ} (hx : value x = .number p) (hp : 0 ≤ p)
    (hhalf : value 0.5 = .number half) :
    (nearestSample x).toNat = if 255 ≤ ⌊p⌋ then 255
      else ⌊p⌋.toNat + if half ≤ nearest (Int.fract p) then 1 else 0 := by
  have hfloor : 0 ≤ ⌊p⌋ := Int.floor_nonneg.2 hp
  have hbyte := toNat_toUInt8 hx
  unfold nearestSample
  generalize x.toUInt8 = n at hbyte
  by_cases hlarge : 255 ≤ ⌊p⌋
  · have hn : n = 255 := UInt8.toNat_inj.1 (hbyte.trans (by simp; omega))
    simp [hn, hlarge]
  · have hn : n ≠ 255 := by
      rintro rfl
      simp at hbyte
      omega
    -- what is behind the whole part is less than one, so that the difference is a number
    have hwhole : (n.toNat : ℚ) = ⌊p⌋ := by
      have : (n.toNat : ℤ) = ⌊p⌋ := by omega
      exact_mod_cast this
    have hfract : value (x - n.toFloat32) = .number (nearest (Int.fract p)) := by
      have hle : nearest (Int.fract p) ≤ 1 := by
        have := nearest_mono (Int.fract_lt_one p).le
        rwa [nearest_one] at this
      have hnonneg := nearest_nonneg (Int.fract_nonneg p)
      rw [value_sub_of_number hx (value_toFloat32 n), hwhole, Int.self_sub_floor]
      exact Value.rounded_of_nonneg hnonneg (hle.trans_lt (by norm_num))
    rw [if_neg hn, if_neg hlarge]
    simp only [le_iff_of_number hhalf hfract]
    split
    · rw [UInt8.toNat_add, show (1 : UInt8).toNat = 1 from rfl, hbyte]
      omega
    · omega

theorem AtMost.nearestSample_le {b : ℕ} {x y : Float32} (h : AtMost b x y) :
    nearestSample x ≤ nearestSample y := by
  obtain ⟨p, q, hp, hq, hnonneg, hle, -⟩ := h
  obtain ⟨half, hhalf⟩ := exists_value_half
  rw [UInt8.le_iff_toNat_le, toNat_nearestSample hp hnonneg hhalf,
    toNat_nearestSample hq (hnonneg.trans hle) hhalf]
  have hfloor : ⌊p⌋ ≤ ⌊q⌋ := Int.floor_mono hle
  have hpfloor : 0 ≤ ⌊p⌋ := Int.floor_nonneg.2 hnonneg
  rcases hfloor.lt_or_eq with hlt | heq
  · split
    · rw [if_pos (by omega)]
    · split <;> split <;> omega
  · have hfract : nearest (Int.fract p) ≤ nearest (Int.fract q) := by
      refine nearest_mono ?_
      rw [Int.fract, Int.fract, heq]
      linarith
    rw [heq]
    split
    · exact le_rfl
    · refine Nat.add_le_add_left ?_ _
      split
      · next h => rw [if_pos (h.trans hfract)]
      · exact Nat.zero_le _

/-! ## Windows -/

theorem window_lt {n : ℕ} (hn : 0 < n) (i k : ℕ) : window n i k < n := by
  unfold window
  omega

/-- A window reaches five steps to each side. -/
theorem window_near {n i k : ℕ} (hi : i < n) (hk : k ≤ 10) :
    window n i k ≤ i + 5 ∧ i ≤ window n i k + 5 := by
  unfold window
  omega

theorem weigh_congr {p q : ℕ → Float32} (h : ∀ k ≤ 10, p k = q k) : weigh p = weigh q := by
  unfold weigh
  rw [h 0 (by decide), h 1 (by decide), h 2 (by decide), h 3 (by decide), h 4 (by decide), h 5 (by decide),
    h 6 (by decide), h 7 (by decide), h 8 (by decide), h 9 (by decide), h 10 (by decide)]

/-- A blurred pixel is weighed along its rows, and then down its column. -/
theorem get?_blur (m : Matte) {x y : ℕ} (hx : x < m.width) (hy : y < m.height) :
    m.blur.get? x y = some (nearestSample (weigh fun k => weigh fun j =>
      (m.getD (window m.width x j) (window m.height y k) 0).toFloat32)) := by
  have hrow : ∀ k, (blurRows m).getD x (window m.height y k) 0 = weigh fun j =>
      (m.getD (window m.width x j) (window m.height y k) 0).toFloat32 := by
    intro k
    rw [Raster.getD, blurRows, Raster.get?_ofFn, if_pos ⟨hx, window_lt (by omega) y k⟩]
    rfl
  rw [blur, blurColumns, Raster.get?_ofFn, if_pos ⟨hx, hy⟩]
  simp only [← hrow]
  rfl

/-! ## Order -/

/-- **Blurring keeps the order of mattes.** -/
theorem blur_mono : Monotone blur := by
  intro m n hmn
  obtain ⟨hsize, hle⟩ := below_iff.1 hmn
  refine ⟨hsize, fun x y u v hu hv => ?_⟩
  obtain ⟨hx, hy⟩ := lt_of_get? hu
  rw [get?_blur m hx hy, Option.some_inj] at hu
  rw [get?_blur n (hx.trans_eq hsize.1) (hy.trans_eq hsize.2), Option.some_inj] at hv
  rw [← hu, ← hv, ← hsize.1, ← hsize.2]
  have hrow : ∀ k, AtMost (8 + 6)
      (weigh fun j => (m.getD (window m.width x j) (window m.height y k) 0).toFloat32)
      (weigh fun j => (n.getD (window m.width x j) (window m.height y k) 0).toFloat32) := fun k =>
    AtMost.weigh (fun j => atMost_toFloat32 (hle _ (window_lt (Nat.zero_lt_of_lt hx) x j) _
      (window_lt (Nat.zero_lt_of_lt hy) y k))) (by decide)
  exact (AtMost.weigh hrow (by decide)).nearestSample_le

/-- A value is steady if it is the same after it has been weighed twice. -/
def IsSteady (v : UInt8) : Prop :=
  nearestSample (weigh fun _ => weigh fun _ => v.toFloat32) = v

theorem blur_fill {v : UInt8} (h : IsSteady v) (width height : ℕ) :
    blur (Raster.fill width height v) = Raster.fill width height v := by
  refine Raster.ext_get? rfl rfl fun x y => ?_
  by_cases hb : x < width ∧ y < height
  · have hget : ∀ j k, (Raster.fill width height v).getD (window width x j) (window height y k) 0 = v := by
      intro j k
      rw [Raster.getD, Raster.get?_fill, if_pos ⟨window_lt (by omega) x j, window_lt (by omega) y k⟩]
      rfl
    rw [get?_blur _ hb.1 hb.2, Raster.get?_fill, if_pos hb]
    show some (nearestSample (weigh fun k => weigh fun j => ((Raster.fill width height v).getD
      (window width x j) (window height y k) 0).toFloat32)) = some v
    simp only [hget]
    exact congrArg some h
  · rw [Raster.get?_eq_none hb, Raster.get?_eq_none hb]

end Matte

end Cutout
