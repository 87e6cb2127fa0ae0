import Cutout.Matte.Clean
import Cutout.Proofs.Matte.Blur

/-!
# Speckles and solid mattes

A pixel is a core at some level if its whole cross is at that level or above. The opening is at a level
exactly where there is a core on the cross (`le_get?_opening_iff`). The values on the two sides of the
threshold are steady under blurring, so that a matte without a core at the threshold is cleaned away, and
one that is covered by cores becomes solid (`clean_of_cores`).
-/

namespace Cutout.Matte

/-! ## Cores -/

instance (x y x' y' : ℕ) : Decidable (OnCross x y x' y') :=
  inferInstanceAs (Decidable (_ ∨ _))

/-- The cross around a pixel, as far as it is inside, is at this level or above. -/
def IsCore (m : Matte) (t : UInt8) (x y : ℕ) : Prop :=
  ∀ v ∈ m.crossValues x y, t ≤ v

theorem isCore_iff {m : Matte} {t : UInt8} {x y : ℕ} : m.IsCore t x y ↔ ∀ v ∈ m.cross x y, t ≤ v :=
  forall_congr' fun _ => imp_congr_left mem_cross.symm

instance (m : Matte) (t : UInt8) (x y : ℕ) : Decidable (m.IsCore t x y) :=
  decidable_of_iff _ isCore_iff.symm

/-- **The level of an opened pixel is that of the cores on its cross.** -/
theorem le_get?_opening_iff {m : Matte} {t v : UInt8} {x y : ℕ} (hv : m.opening.get? x y = some v) :
    t ≤ v ↔ ∃ x' < m.width, ∃ y' < m.height, OnCross x y x' y' ∧ m.IsCore t x' y' := by
  obtain ⟨-, hmem, hgreatest⟩ := get?_dilate.1 hv
  constructor
  · intro ht
    obtain ⟨x', y', hcross, hget⟩ := hmem
    obtain ⟨⟨hx', hy'⟩, -, hleast⟩ := get?_erode.1 hget
    exact ⟨x', hx', y', hy', hcross, fun u hu => ht.trans (hleast hu)⟩
  · rintro ⟨x', hx', y', hy', hcross, hcore⟩
    obtain ⟨e, he⟩ := exists_get? (m := m.erode) hx' hy'
    exact (hcore e (get?_erode.1 he).2.1).trans (hgreatest ⟨x', y', hcross, he⟩)

/-! ## Around the threshold -/

theorem isSteady_below_threshold : IsSteady 126 := by
  unfold IsSteady
  decide +kernel

theorem isSteady_threshold : IsSteady 127 := by
  unfold IsSteady
  decide +kernel

/-- A matte is below that of one value if all its pixels are. -/
theorem le_fill_iff {m : Matte} {t : UInt8} :
    m ≤ Raster.fill m.width m.height t ↔ ∀ x y v, m.get? x y = some v → v ≤ t := by
  constructor
  · intro hle x y v hv
    exact hle.2 x y v t hv (by rw [Raster.get?_fill, if_pos (lt_of_get? hv)])
  · refine fun h => ⟨⟨rfl, rfl⟩, fun x y u v hu hv => ?_⟩
    rw [Raster.get?_fill, if_pos (lt_of_get? hu), Option.some_inj] at hv
    exact hv ▸ h x y u hu

theorem fill_le_iff {m : Matte} {t : UInt8} :
    Raster.fill m.width m.height t ≤ m ↔ ∀ x y v, m.get? x y = some v → t ≤ v := by
  constructor
  · intro hle x y v hv
    exact hle.2 x y t v (by rw [Raster.get?_fill, if_pos (lt_of_get? hv)]) hv
  · refine fun h => ⟨⟨rfl, rfl⟩, fun x y u v hu hv => ?_⟩
    rw [Raster.get?_fill, if_pos (lt_of_get? hv), Option.some_inj] at hu
    exact hu ▸ h x y v hv

theorem clean_eq_fill {m : Matte} {d : UInt8}
    (h : ∀ x y v, m.opening.blur.get? x y = some v → decideLevel v = d) :
    m.clean = Raster.fill m.width m.height d := by
  refine Raster.ext_get? rfl rfl fun x y => ?_
  rw [clean, Raster.get?_map, Raster.get?_fill]
  split
  · next hb =>
    obtain ⟨v, hv⟩ := exists_get? (m := m.opening.blur) hb.1 hb.2
    rw [hv, Option.map_some, h x y v hv]
  · next hb =>
    rw [Raster.get?_eq_none (r := m.opening.blur) hb]
    rfl

/-- **Speckles are removed and solid mattes kept.** The level of an opened pixel is that of the cores on
its cross; without a core at the threshold nothing is left of a matte; and if there is one on each cross,
all of it is kept. -/
theorem clean_of_cores (m : Matte) :
    (∀ t x y v, m.opening.get? x y = some v →
      (t ≤ v ↔ ∃ x' < m.width, ∃ y' < m.height, OnCross x y x' y' ∧ m.IsCore t x' y')) ∧
    ((∀ x < m.width, ∀ y < m.height, ¬m.IsCore 127 x y) →
      m.clean = Raster.fill m.width m.height 0) ∧
    ((∀ x < m.width, ∀ y < m.height,
        ∃ x' < m.width, ∃ y' < m.height, OnCross x y x' y' ∧ m.IsCore 127 x' y') →
      m.clean = Raster.fill m.width m.height 255) := by
  refine ⟨fun t x y v hv => le_get?_opening_iff hv, fun hnone => ?_, fun hcover => ?_⟩
  · have hopening : m.opening ≤ Raster.fill m.width m.height 126 := by
      refine (le_fill_iff (m := m.opening)).2 fun x y v hv => ?_
      have hlow : ¬127 ≤ v := by
        intro h
        obtain ⟨x', hx', y', hy', -, hcore⟩ := (le_get?_opening_iff hv).1 h
        exact hnone x' hx' y' hy' hcore
      rw [UInt8.le_iff_toNat_le] at hlow ⊢
      exact Nat.le_of_lt_succ (not_le.1 hlow)
    have hblur := blur_mono hopening
    rw [blur_fill isSteady_below_threshold] at hblur
    refine clean_eq_fill fun x y v hv => if_neg fun h => ?_
    exact absurd (h.trans (le_fill_iff.1 hblur x y v hv)) (by decide)
  · have hopening : Raster.fill m.width m.height 127 ≤ m.opening := by
      refine (fill_le_iff (m := m.opening)).2 fun x y v hv => ?_
      obtain ⟨hx, hy⟩ := lt_of_get? hv
      exact (le_get?_opening_iff hv).2 (hcover x hx y hy)
    have hblur := blur_mono hopening
    rw [blur_fill isSteady_threshold] at hblur
    exact clean_eq_fill fun x y v hv => if_pos (fill_le_iff.1 hblur x y v hv)

theorem clean_of_cores_small :
    let m : Matte := ⟨3, 2, #[0, 255, 126, 126, 255, 255], rfl⟩
    let n : Matte := ⟨2, 3, #[127, 200, 255, 128, 130, 129], rfl⟩
    (∃ x' < 3, ∃ y' < 2, OnCross 2 1 x' y' ∧ m.IsCore 126 x' y') ∧
      m.clean = Raster.fill 3 2 0 ∧ n.clean = Raster.fill 2 3 255 :=
  ⟨((clean_of_cores ⟨3, 2, #[0, 255, 126, 126, 255, 255], rfl⟩).1 126 2 1 126
      (by decide +kernel)).1 le_rfl,
    (clean_of_cores _).2.1 (by decide +kernel), (clean_of_cores _).2.2 (by decide +kernel)⟩

end Cutout.Matte
