import Cutout.Image.Resize
import Cutout.Proofs.Matte.Apply
import Cutout.Proofs.Matte.Clean

/-!
# Mattes that let nothing through

A matte that is 0 everywhere stays so when it is brought to another size (`Raster.resize_fill_zero`) and
when it is cleaned (`Matte.clean_fill_zero`), and nothing is left of a picture under it
(`Raster.cutBy?_fill_zero`). For the first of these, the weights of the samples do not matter, not even if
they are no numbers: a product with zero is zero or not a number (`IsVoid.mul`), and both are rounded to
the sample 0 (`IsVoid.nearestSample`).
-/

namespace Cutout

/-! ## Numbers without a weight -/

namespace Single

open Float.Model

/-- A single-precision number that is zero or none at all. -/
def IsVoid (x : Float32) : Prop :=
  value x = .number 0 ∨ value x = .nan

theorem isVoid_zero : IsVoid 0 :=
  .inl (value_toFloat32 0)

theorem IsVoid.add {x y : Float32} (hx : IsVoid x) (hy : IsVoid y) : IsVoid (x + y) := by
  unfold IsVoid
  rw [value_add]
  rcases hx with hx | hx
  · rcases hy with hy | hy
    · left
      rw [hx, hy]
      show Value.rounded (0 + 0) = _
      rw [add_zero, isSingle_zero.rounded_eq]
    · right
      rw [hx, hy]
      rfl
  · right
    rw [hx]
    rfl

/-- Only the two zeros stand for zero. -/
theorem ofUnpacked_eq_zero {u : UnpackedFloat} (h : Value.ofUnpacked u = .number 0) :
    ∃ s, u = .zero s := by
  cases u with
  | notANumber => cases h
  | infinity s => cases h
  | zero s => exact ⟨s, rfl⟩
  | finite s m e hm =>
    have hzero : signed s (m * 2 ^ e) = 0 := Value.number.inj h
    have hpos : (0 : ℚ) < m * 2 ^ e := mul_pos (by exact_mod_cast hm) (two_zpow_pos e)
    cases s with
    | positive => exact absurd hzero hpos.ne'
    | negative => exact absurd (neg_eq_zero.1 hzero) hpos.ne'

/-- **A product with zero is zero**, or not a number. -/
theorem IsVoid.mul {x : Float32} (hx : IsVoid x) (w : Float32) : IsVoid (x * w) := by
  rcases hx with hx | hx
  · obtain ⟨s, hs⟩ := ofUnpacked_eq_zero hx
    show Value.packed (UnpackedFloat.mul Format.binary32 x.toModel.unpack w.toModel.unpack) = _ ∨
      Value.packed (UnpackedFloat.mul Format.binary32 x.toModel.unpack w.toModel.unpack) = _
    rw [hs]
    cases w.toModel.unpack with
    | notANumber => exact .inr packed_notANumber
    | infinity t => exact .inr packed_notANumber
    | zero t => exact .inl (packed_zero _)
    | finite t n f hn => exact .inl (packed_zero _)
  · exact .inr (value_mul_of_nan hx w)

theorem IsVoid.toUInt8 {x : Float32} (hx : IsVoid x) : x.toUInt8 = 0 := by
  rcases hx with hx | hx
  · refine UInt8.toNat_inj.1 ?_
    rw [toNat_toUInt8 hx]
    rfl
  · exact toUInt8_of_nan hx

theorem IsVoid.sub_sample_zero {x : Float32} (hx : IsVoid x) : IsVoid (x - (0 : UInt8).toFloat32) := by
  have hzero : value (0 : UInt8).toFloat32 = .number 0 := value_toFloat32 0
  rcases hx with hx | hx
  · left
    rw [value_sub_of_number hx hzero, sub_zero, isSingle_zero.rounded_eq]
  · right
    rw [value_sub, hx]
    rfl

theorem IsVoid.not_half_le {x : Float32} (hx : IsVoid x) : ¬(0.5 : Float32) ≤ x := by
  intro hle
  rcases hx with hx | hx
  · have hpos : (0 : UInt8).toFloat32 < (0.5 : Float32) := by decide +kernel
    obtain ⟨half, hhalf⟩ := Matte.exists_value_half
    have hlow := (le_iff_of_number hhalf hx).1 hle
    have hhigh := (lt_iff_of_number (value_toFloat32 0) hhalf).1 hpos
    exact absurd (hhigh.trans_le hlow) (by simp)
  · exact (le_iff.1 hle).2.1 hx

theorem IsVoid.nearestSample {x : Float32} (hx : IsVoid x) : nearestSample x = 0 := by
  unfold Cutout.nearestSample
  rw [hx.toUInt8]
  show (if (0 : UInt8) = 255 then 255 else if (0.5 : Float32) ≤ _ then _ else (0 : UInt8)) = 0
  rw [if_neg (by decide), if_neg hx.sub_sample_zero.not_half_le]

end Single

/-! ## Another size -/

open Single

/-- A weighted sum of nothing is nothing, whatever the weights are. -/
theorem Taps.isVoid_apply {p : ℕ → Float32} (hp : ∀ j, IsVoid (p j)) (t : Taps) : IsVoid (t.apply p) := by
  unfold apply
  generalize t.first = i
  have hsum : ∀ (l : List Float32) (s : Float32) (i : ℕ), IsVoid s →
      IsVoid (l.foldl (fun (s : Float32 × ℕ) w => (s.1 + p s.2 * w, s.2 + 1)) (s, i)).1 := by
    intro l
    induction l with
    | nil => exact fun s i hs => hs
    | cons w l ih => exact fun s i hs => ih _ _ (hs.add ((hp i).mul w))
  exact hsum t.weights 0 i isVoid_zero

namespace Raster

theorem getD_fill {α : Type} (w h : ℕ) (a : α) (x y : ℕ) : (fill w h a).getD x y a = a := by
  rw [getD, get?_fill]
  split <;> rfl

theorem isVoid_stretchColumns (w h h' x y : ℕ) :
    IsVoid (((fill w h (0 : UInt8)).stretchColumns h').getD x y 0) := by
  rw [getD, stretchColumns, get?_ofFn]
  split
  · rw [Option.getD_some]
    split
    · next t _ =>
      refine t.isVoid_apply fun j => ?_
      rw [getD_fill]
      exact .inl (value_toFloat32 0)
    · exact isVoid_zero
  · exact isVoid_zero

/-- **Zero stays zero at any size.** -/
theorem resize_fill_zero (w h w' h' : ℕ) : (fill w h (0 : UInt8)).resize w' h' = fill w' h' 0 := by
  unfold resize
  split
  · rfl
  split
  · next hsize =>
    obtain ⟨rfl, rfl⟩ : w = w' ∧ h = h' := hsize
    rfl
  · refine ext_get? rfl rfl fun x y => ?_
    rw [stretchRows, get?_ofFn, get?_fill]
    show (if x < w' ∧ y < h' then _ else _) = _
    split
    · congr 1
      split
      · next t _ =>
        exact (t.isVoid_apply fun j => isVoid_stretchColumns w h h' j y).nearestSample
      · rfl
    · rfl

end Raster

/-! ## Cleaning -/

namespace Matte

/-- The values of a matte on a cross, if all its values are the same. -/
theorem crossValues_fill {w h x y : ℕ} (hin : x < w ∧ y < h) (v : UInt8) :
    crossValues (Raster.fill w h v) x y = {v} := by
  ext u
  constructor
  · rintro ⟨x', y', -, hu⟩
    rw [Raster.get?_fill] at hu
    split at hu
    · exact (Option.some.inj hu).symm
    · cases hu
  · rintro rfl
    exact ⟨x, y, onCross_self x y, by rw [Raster.get?_fill, if_pos hin]⟩

theorem erode_fill (w h : ℕ) (v : UInt8) : erode (Raster.fill w h v) = Raster.fill w h v := by
  refine Raster.ext_get? rfl rfl fun x y => ?_
  rw [Raster.get?_fill]
  split
  · next hin =>
    rw [get?_erode, crossValues_fill hin]
    exact ⟨hin, isLeast_singleton⟩
  · next hout => exact Raster.get?_eq_none hout

theorem dilate_fill (w h : ℕ) (v : UInt8) : dilate (Raster.fill w h v) = Raster.fill w h v := by
  refine Raster.ext_get? rfl rfl fun x y => ?_
  rw [Raster.get?_fill]
  split
  · next hin =>
    rw [get?_dilate, crossValues_fill hin]
    exact ⟨hin, isGreatest_singleton⟩
  · next hout => exact Raster.get?_eq_none hout

theorem isSteady_zero : IsSteady 0 := by
  unfold IsSteady
  decide +kernel

/-- **Nothing is cleaned into nothing.** -/
theorem clean_fill_zero (w h : ℕ) : clean (Raster.fill w h 0) = Raster.fill w h 0 := by
  refine clean_eq_fill (m := Raster.fill w h 0) fun x y v hv => ?_
  rw [opening, erode_fill, dilate_fill, blur_fill isSteady_zero, Raster.get?_fill] at hv
  split at hv
  · rw [← Option.some.inj hv]
    rfl
  · cases hv

end Matte

/-! ## Applying -/

/-- Nothing is left of a picture under a matte that is 0 everywhere. -/
theorem Raster.cutBy?_fill_zero (image : Raster (Rgba UInt8)) :
    image.cutBy? (fill image.width image.height 0) =
      some (fill image.width image.height Rgba.clear) := by
  refine cutBy?_eq_some_iff.2 ⟨⟨rfl, rfl⟩, ⟨rfl, rfl⟩, fun x y => ?_⟩
  rw [get?_fill, get?_fill]
  split
  · next hin =>
    obtain ⟨p, hp⟩ := Option.isSome_iff_exists.1 (isSome_get?.2 hin)
    rw [hp]
    rfl
  · next hout =>
    rw [get?_eq_none hout]
    rfl

end Cutout
