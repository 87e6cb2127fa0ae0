import Cutout.Matte.Opening
import Mathlib.Data.List.Basic
import Mathlib.Order.Bounds.Basic
import Mathlib.Order.GaloisConnection.Basic
import Mathlib.Order.MinMax

/-!
# Opening mattes

Mattes of one size are ordered pixel by pixel. Erosion takes the least value of a cross and dilation the
greatest, as far as the cross is inside, so that the two are adjoint (`gc_dilate_erode`). All that is known
of an opening follows from that: it is below the matte, taking it twice changes nothing, and it is the
largest dilation below the matte (`opening_laws`).
-/

namespace Cutout

instance linearOrderUInt8 : LinearOrder UInt8 where
  le_refl _ := UInt8.le_refl _
  le_trans _ _ _ := UInt8.le_trans
  le_antisymm _ _ := UInt8.le_antisymm
  le_total := UInt8.le_total
  lt_iff_le_not_ge _ _ := by
    rw [UInt8.not_le]
    exact ⟨fun h => ⟨UInt8.le_of_lt h, h⟩, fun h => h.2⟩
  toDecidableLE := inferInstance
  toDecidableEq := inferInstance
  toDecidableLT := inferInstance
  min_def _ _ := rfl
  max_def _ _ := rfl

/-! ## Folds -/

section Folds

variable {α : Type} [LinearOrder α]

theorem le_foldl_min_iff {l : List α} {a t : α} :
    t ≤ l.foldl min a ↔ t ≤ a ∧ ∀ v ∈ l, t ≤ v := by
  induction l generalizing a with
  | nil => simp
  | cons v l ih => rw [List.foldl_cons, ih, le_min_iff, List.forall_mem_cons, and_assoc]

theorem foldl_min_mem (l : List α) (a : α) : l.foldl min a = a ∨ l.foldl min a ∈ l := by
  induction l generalizing a with
  | nil => exact .inl rfl
  | cons v l ih =>
    rw [List.foldl_cons]
    rcases ih (min a v) with h | h
    · rcases min_choice a v with hleft | hright
      · exact .inl (h.trans hleft)
      · rw [h, hright]
        exact .inr List.mem_cons_self
    · exact .inr (List.mem_cons_of_mem v h)

/-- The least of some values, folded from one that is above all. -/
theorem isLeast_foldl_min {l : List α} {a : α} (hl : l ≠ []) (ha : ∀ v ∈ l, v ≤ a) :
    IsLeast {v | v ∈ l} (l.foldl min a) := by
  refine ⟨?_, fun v hv => (le_foldl_min_iff.1 le_rfl).2 v hv⟩
  rcases foldl_min_mem l a with h | h
  · obtain ⟨v, hv⟩ := List.exists_mem_of_ne_nil l hl
    have : v = l.foldl min a :=
      le_antisymm ((ha v hv).trans_eq h.symm) ((le_foldl_min_iff.1 le_rfl).2 v hv)
    exact this ▸ hv
  · exact h

theorem isGreatest_foldl_max {l : List α} {a : α} (hl : l ≠ []) (ha : ∀ v ∈ l, a ≤ v) :
    IsGreatest {v | v ∈ l} (l.foldl max a) :=
  isLeast_foldl_min (α := αᵒᵈ) hl ha

end Folds

namespace Matte

/-! ## Crosses -/

/-- Two pixels are the same, or one is next to the other in its row or column. -/
def OnCross (x y x' y' : ℕ) : Prop :=
  (x' = x ∧ y' = y) ∨ (x' + 1 = x ∧ y' = y) ∨ (x' = x + 1 ∧ y' = y) ∨ (x' = x ∧ y' + 1 = y) ∨
    (x' = x ∧ y' = y + 1)

theorem OnCross.symm {x y x' y' : ℕ} (h : OnCross x y x' y') : OnCross x' y' x y := by
  unfold OnCross at h ⊢
  omega

theorem onCross_self (x y : ℕ) : OnCross x y x y :=
  .inl ⟨rfl, rfl⟩

/-- The values of a matte on the cross around a pixel, without what is outside. -/
def crossValues (m : Matte) (x y : ℕ) : Set UInt8 :=
  {v | ∃ x' y', OnCross x y x' y' ∧ m.get? x' y' = some v}

theorem mem_cross {m : Matte} {x y : ℕ} {v : UInt8} : v ∈ m.cross x y ↔ v ∈ m.crossValues x y := by
  simp only [cross, List.mem_filterMap, List.mem_cons, List.not_mem_nil, or_false, id]
  constructor
  · rintro ⟨o, rfl | rfl | rfl | rfl | rfl, ho⟩
    · exact ⟨x, y, onCross_self x y, ho⟩
    · split at ho
      · cases ho
      · exact ⟨x - 1, y, .inr (.inl (by omega)), ho⟩
    · exact ⟨x + 1, y, .inr (.inr (.inl ⟨rfl, rfl⟩)), ho⟩
    · split at ho
      · cases ho
      · exact ⟨x, y - 1, .inr (.inr (.inr (.inl (by omega)))), ho⟩
    · exact ⟨x, y + 1, .inr (.inr (.inr (.inr ⟨rfl, rfl⟩))), ho⟩
  · rintro ⟨x', y', hcross, hv⟩
    refine ⟨m.get? x' y', ?_, hv⟩
    rcases hcross with ⟨rfl, rfl⟩ | ⟨rfl, rfl⟩ | ⟨rfl, rfl⟩ | ⟨rfl, rfl⟩ | ⟨rfl, rfl⟩
    · exact .inl rfl
    · exact .inr (.inl (by simp))
    · exact .inr (.inr (.inl rfl))
    · exact .inr (.inr (.inr (.inl (by simp))))
    · exact .inr (.inr (.inr (.inr rfl)))

theorem setOf_mem_cross (m : Matte) (x y : ℕ) : {v | v ∈ m.cross x y} = m.crossValues x y :=
  Set.ext fun _ => mem_cross

theorem exists_get? {m : Matte} {x y : ℕ} (hx : x < m.width) (hy : y < m.height) :
    ∃ v, m.get? x y = some v :=
  Option.isSome_iff_exists.1 (Raster.isSome_get?.2 ⟨hx, hy⟩)

theorem lt_of_get? {m : Matte} {x y : ℕ} {v : UInt8} (h : m.get? x y = some v) :
    x < m.width ∧ y < m.height :=
  Raster.isSome_get?.1 (Option.isSome_of_mem h)

theorem cross_ne_nil {m : Matte} {x y : ℕ} (hx : x < m.width) (hy : y < m.height) : m.cross x y ≠ [] := by
  obtain ⟨v, hv⟩ := exists_get? hx hy
  exact List.ne_nil_of_mem (mem_cross.2 ⟨x, y, onCross_self x y, hv⟩)

/-! ## Erosion and dilation -/

/-- An eroded pixel is the least on its cross. -/
theorem get?_erode {m : Matte} {x y : ℕ} {v : UInt8} :
    m.erode.get? x y = some v ↔ (x < m.width ∧ y < m.height) ∧ IsLeast (m.crossValues x y) v := by
  rw [erode, Raster.get?_ofFn, ← setOf_mem_cross]
  split
  · next h =>
    have htop : ∀ v ∈ m.cross x y, v ≤ 255 := fun v _ =>
      UInt8.le_iff_toNat_le.2 (Nat.le_of_lt_succ v.toNat_lt)
    have hleast := isLeast_foldl_min (cross_ne_nil h.1 h.2) htop
    rw [Option.some_inj, and_iff_right h]
    exact ⟨fun heq => heq ▸ hleast, hleast.unique⟩
  · next h => exact iff_of_false nofun fun hv => h hv.1

/-- A dilated pixel is the greatest on its cross. -/
theorem get?_dilate {m : Matte} {x y : ℕ} {v : UInt8} :
    m.dilate.get? x y = some v ↔ (x < m.width ∧ y < m.height) ∧ IsGreatest (m.crossValues x y) v := by
  rw [dilate, Raster.get?_ofFn, ← setOf_mem_cross]
  split
  · next h =>
    have hbottom : ∀ v ∈ m.cross x y, 0 ≤ v := fun _ _ => UInt8.zero_le
    have hgreatest := isGreatest_foldl_max (cross_ne_nil h.1 h.2) hbottom
    rw [Option.some_inj, and_iff_right h]
    exact ⟨fun heq => heq ▸ hgreatest, hgreatest.unique⟩
  · next h => exact iff_of_false nofun fun hv => h hv.1

/-! ## The order of mattes -/

/-- Two mattes have the same size, and no pixel of the first is above that of the second. -/
def Below (m n : Matte) : Prop :=
  m.SameSize n ∧ ∀ x y u v, m.get? x y = some u → n.get? x y = some v → u ≤ v

theorem Below.refl (m : Matte) : m.Below m := by
  refine ⟨⟨rfl, rfl⟩, fun x y u v hu hv => ?_⟩
  rw [hu, Option.some_inj] at hv
  exact hv.le

theorem Below.trans {l m n : Matte} (hlm : l.Below m) (hmn : m.Below n) : l.Below n := by
  refine ⟨⟨hlm.1.1.trans hmn.1.1, hlm.1.2.trans hmn.1.2⟩, fun x y u w hu hw => ?_⟩
  obtain ⟨hx, hy⟩ := lt_of_get? hu
  obtain ⟨v, hv⟩ := exists_get? (m := m) (hx.trans_eq hlm.1.1) (hy.trans_eq hlm.1.2)
  exact (hlm.2 x y u v hu hv).trans (hmn.2 x y v w hv hw)

theorem Below.antisymm {m n : Matte} (hmn : m.Below n) (hnm : n.Below m) : m = n := by
  refine Raster.ext_get? hmn.1.1 hmn.1.2 fun x y => ?_
  by_cases h : x < m.width ∧ y < m.height
  · obtain ⟨u, hu⟩ := exists_get? h.1 h.2
    obtain ⟨v, hv⟩ := exists_get? (m := n) (h.1.trans_eq hmn.1.1) (h.2.trans_eq hmn.1.2)
    rw [hu, hv, le_antisymm (hmn.2 x y u v hu hv) (hnm.2 x y v u hv hu)]
  · rw [Raster.get?_eq_none h, Raster.get?_eq_none (by rwa [← hmn.1.1, ← hmn.1.2])]

theorem below_iff {m n : Matte} :
    m.Below n ↔ m.SameSize n ∧ ∀ x < m.width, ∀ y < m.height, m.getD x y 0 ≤ n.getD x y 0 := by
  refine and_congr_right fun hsize => ⟨fun h x hx y hy => ?_, fun h x y u v hu hv => ?_⟩
  · obtain ⟨u, hu⟩ := exists_get? hx hy
    obtain ⟨v, hv⟩ := exists_get? (m := n) (hx.trans_eq hsize.1) (hy.trans_eq hsize.2)
    rw [Raster.getD, Raster.getD, hu, hv]
    exact h x y u v hu hv
  · obtain ⟨hx, hy⟩ := lt_of_get? hu
    have hle := h x hx y hy
    rw [Raster.getD, Raster.getD, hu, hv] at hle
    exact hle

/-- Mattes of one size are ordered pixel by pixel. -/
instance : PartialOrder Matte where
  le := Below
  le_refl := Below.refl
  le_trans _ _ _ := Below.trans
  le_antisymm _ _ := Below.antisymm

instance : DecidableLE Matte := fun _ _ =>
  decidable_of_iff _ below_iff.symm

/-- **Dilation and erosion are adjoint.** Both sides say that no pixel of the one matte is above a pixel of
the other on its cross. -/
theorem gc_dilate_erode : GaloisConnection dilate erode := by
  intro k m
  constructor
  · rintro ⟨⟨hw, hh⟩, hle⟩
    refine ⟨⟨hw, hh⟩, fun x y u v hu hv => ?_⟩
    -- the least value is that of a pixel, and this pixel has the first one on its cross
    obtain ⟨-, ⟨x', y', hcross, hv'⟩, -⟩ := get?_erode.1 hv
    obtain ⟨hx', hy'⟩ := lt_of_get? hv'
    obtain ⟨d, hd⟩ := exists_get? (m := k.dilate) (hx'.trans_eq hw.symm) (hy'.trans_eq hh.symm)
    exact ((get?_dilate.1 hd).2.2 ⟨x, y, hcross.symm, hu⟩).trans (hle x' y' d v hd hv')
  · rintro ⟨⟨hw, hh⟩, hle⟩
    refine ⟨⟨hw, hh⟩, fun x y u v hu hv => ?_⟩
    obtain ⟨-, ⟨x', y', hcross, hu'⟩, -⟩ := get?_dilate.1 hu
    obtain ⟨hx', hy'⟩ := lt_of_get? hu'
    obtain ⟨e, he⟩ := exists_get? (m := m.erode) (hx'.trans_eq hw) (hy'.trans_eq hh)
    exact (hle x' y' u e hu' he).trans ((get?_erode.1 he).2.2 ⟨x, y, hcross.symm, hv⟩)

/-! ## Openings -/

/-- **What an opening is.** It is below the matte and keeps the order of mattes, a second opening changes
nothing, and no dilation below the matte is above it. Each pixel of the erosion in it is the least on its
cross, and each of the dilation the greatest, of what is inside. -/
theorem opening_laws (m : Matte) :
    m.opening ≤ m ∧ m.opening.opening = m.opening ∧
      (∀ n : Matte, m ≤ n → m.opening ≤ n.opening) ∧
      (∀ k : Matte, k.dilate ≤ m → k.dilate ≤ m.opening) ∧
      (m.erode.SameSize m ∧ ∀ x y v, m.erode.get? x y = some v → IsLeast (m.crossValues x y) v) ∧
      (m.opening.SameSize m ∧
        ∀ x y v, m.opening.get? x y = some v → IsGreatest (m.erode.crossValues x y) v) := by
  refine ⟨gc_dilate_erode.l_u_le m, ?_, ?_, ?_, ⟨⟨rfl, rfl⟩, ?_⟩, ⟨⟨rfl, rfl⟩, ?_⟩⟩
  · exact congrArg dilate (gc_dilate_erode.u_l_u_eq_u m)
  · intro n hmn
    exact gc_dilate_erode.monotone_l (gc_dilate_erode.monotone_u hmn)
  · intro k hk
    exact gc_dilate_erode.monotone_l (gc_dilate_erode.le_u hk)
  · intro x y v hv
    exact (get?_erode.1 hv).2
  · intro x y v hv
    exact (get?_dilate.1 hv).2

theorem opening_laws_row :
    let m : Matte := ⟨5, 1, #[9, 200, 90, 0, 7], rfl⟩
    let n : Matte := ⟨5, 1, #[80, 200, 90, 120, 130], rfl⟩
    let k : Matte := ⟨5, 1, #[9, 0, 0, 0, 0], rfl⟩
    m.opening ≤ n.opening ∧ k.dilate ≤ m.opening :=
  ⟨(opening_laws _).2.2.1 _ (by decide), (opening_laws _).2.2.2.1 _ (by decide)⟩

end Matte

end Cutout
