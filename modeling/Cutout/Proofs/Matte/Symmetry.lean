import Cutout.Proofs.Codec.Turning
import Cutout.Proofs.Matte.Opening
import Mathlib.Data.Nat.Dist

/-!
# Symmetries of erosion and dilation

Erosion is dilation seen in the negative (`erode_eq_negative`), so that what the border does to the one it
does to the other. A cross stays a cross when a matte is turned (`onCross_target_iff`): what is left out
of it at one border is left out at the border where it is displayed. Eroding, dilating and opening a turned
matte is therefore turning the eroded, dilated or opened one (`opening_symmetries`).
-/

namespace Cutout.Matte

/-! ## The negative -/

/-- The matte with light and dark exchanged. -/
def negative (m : Matte) : Matte :=
  m.map fun v => 255 - v

theorem toNat_flip (v : UInt8) : (255 - v).toNat = 255 - v.toNat :=
  UInt8.toNat_sub_of_le 255 v (UInt8.le_iff_toNat_le.2 (Nat.le_of_lt_succ v.toNat_lt))

theorem flip_flip (v : UInt8) : 255 - (255 - v) = v := by
  have := v.toNat_lt
  refine UInt8.toNat_inj.1 ?_
  rw [toNat_flip, toNat_flip]
  omega

theorem flip_le_flip_iff {u v : UInt8} : 255 - u ≤ 255 - v ↔ v ≤ u := by
  have := v.toNat_lt
  rw [UInt8.le_iff_toNat_le, UInt8.le_iff_toNat_le, toNat_flip, toNat_flip]
  omega

theorem get?_negative {m : Matte} {x y : ℕ} {v : UInt8} :
    m.negative.get? x y = some v ↔ m.get? x y = some (255 - v) := by
  rw [negative, Raster.get?_map, Option.map_eq_some_iff]
  constructor
  · rintro ⟨u, hu, rfl⟩
    rw [flip_flip, hu]
  · exact fun hv => ⟨255 - v, hv, flip_flip v⟩

theorem negative_negative (m : Matte) : m.negative.negative = m := by
  refine Raster.ext_get? rfl rfl fun x y => Option.ext fun v => ?_
  rw [get?_negative, get?_negative, flip_flip]

theorem mem_crossValues_negative {m : Matte} {x y : ℕ} {v : UInt8} :
    v ∈ m.negative.crossValues x y ↔ 255 - v ∈ m.crossValues x y :=
  exists_congr fun _ => exists_congr fun _ => and_congr_right fun _ => get?_negative

/-- The greatest on a cross of the negative is the least on the cross. -/
theorem isGreatest_crossValues_negative {m : Matte} {x y : ℕ} {v : UInt8} :
    IsGreatest (m.negative.crossValues x y) (255 - v) ↔ IsLeast (m.crossValues x y) v := by
  unfold IsGreatest IsLeast
  rw [mem_crossValues_negative, flip_flip]
  refine and_congr_right fun _ => ⟨fun h u hu => ?_, fun h u hu => ?_⟩
  · exact flip_le_flip_iff.1 (h (mem_crossValues_negative.2 (by rwa [flip_flip])))
  · rw [← flip_flip u]
    exact flip_le_flip_iff.2 (h (mem_crossValues_negative.1 hu))

/-- **Erosion is dilation in the negative.** -/
theorem erode_eq_negative (m : Matte) : m.erode = m.negative.dilate.negative := by
  refine Raster.ext_get? rfl rfl fun x y => Option.ext fun v => ?_
  rw [get?_negative, get?_erode, get?_dilate, isGreatest_crossValues_negative]
  exact Iff.rfl

theorem dilate_eq_negative (m : Matte) : m.dilate = m.negative.erode.negative := by
  rw [erode_eq_negative, negative_negative, negative_negative]

/-! ## Turning -/

/-- A cross is what is at most one step away. -/
theorem onCross_iff_dist {x y x' y' : ℕ} :
    OnCross x y x' y' ↔ Nat.dist x x' + Nat.dist y y' ≤ 1 := by
  unfold OnCross Nat.dist
  omega

/-- Counting from the other end keeps distances. -/
theorem dist_mirror {w a b : ℕ} (ha : a < w) (hb : b < w) :
    Nat.dist (w - 1 - a) (w - 1 - b) = Nat.dist a b := by
  unfold Nat.dist
  omega

/-- A cross stays a cross when it is turned. -/
theorem onCross_target_iff (o : Orientation) {w h x y x' y' : ℕ} (hin : x < w ∧ y < h)
    (hin' : x' < w ∧ y' < h) :
    OnCross (o.target w h x y).1 (o.target w h x y).2 (o.target w h x' y').1 (o.target w h x' y').2 ↔
      OnCross x y x' y' := by
  rw [onCross_iff_dist, onCross_iff_dist]
  have hcolumns := dist_mirror hin.1 hin'.1
  have hrows := dist_mirror hin.2 hin'.2
  cases o <;> simp only [Orientation.target, hcolumns, hrows, Nat.add_comm]

variable {o : Orientation} {m n : Matte}

/-- The cross around a displayed pixel has the values of the cross around the stored one. -/
theorem crossValues_of_isMoved (h : m.IsMoved o n) {x y : ℕ} (hin : x < m.width ∧ y < m.height) :
    n.crossValues (o.target m.width m.height x y).1 (o.target m.width m.height x y).2 =
      m.crossValues x y := by
  ext v
  constructor
  · rintro ⟨x', y', hcross, hv⟩
    obtain ⟨hx', hy'⟩ := lt_of_get? hv
    obtain ⟨⟨p, q⟩, ⟨hplace, htarget⟩, -⟩ := h.stored x' y' hx' hy'
    obtain ⟨rfl, rfl⟩ := Prod.mk.inj htarget
    exact ⟨p, q, (onCross_target_iff o hin hplace).1 hcross,
      (h.displayed p q hplace.1 hplace.2).symm.trans hv⟩
  · rintro ⟨x', y', hcross, hv⟩
    have hplace := lt_of_get? hv
    exact ⟨_, _, (onCross_target_iff o hin hplace).2 hcross,
      (h.displayed x' y' hplace.1 hplace.2).trans hv⟩

theorem target_lt_of_isMoved (h : m.IsMoved o n) {x y : ℕ} (hin : x < m.width ∧ y < m.height) :
    (o.target m.width m.height x y).1 < n.width ∧ (o.target m.width m.height x y).2 < n.height := by
  have hsome := Raster.isSome_get?.2 hin
  rw [← h.displayed x y hin.1 hin.2] at hsome
  exact Raster.isSome_get?.1 hsome

/-- What is moved and then eroded is what is eroded and then moved. -/
theorem isMoved_erode (h : m.IsMoved o n) : m.erode.IsMoved o n.erode where
  width := h.width
  height := h.height
  displayed x y hx hy := by
    have hin : x < m.width ∧ y < m.height := ⟨hx, hy⟩
    change n.erode.get? (o.target m.width m.height x y).1 (o.target m.width m.height x y).2 = _
    refine Option.ext fun v => ?_
    rw [get?_erode, get?_erode, crossValues_of_isMoved h hin]
    exact and_congr_left fun _ => iff_of_true (target_lt_of_isMoved h hin) hin
  stored := h.stored

theorem isMoved_dilate (h : m.IsMoved o n) : m.dilate.IsMoved o n.dilate := by
  rw [dilate_eq_negative m, dilate_eq_negative n]
  exact (isMoved_erode (h.map _)).map _

/-- **Erosion and dilation have all the symmetries of a rectangle.** Each is the other in the negative, and
in whichever of the eight ways a matte is turned, eroding, dilating or opening it first gives the same. -/
theorem opening_symmetries (m : Matte) :
    m.erode = m.negative.dilate.negative ∧ m.dilate = m.negative.erode.negative ∧
      ∀ o : Orientation, erode (m.orient o) = m.erode.orient o ∧
        dilate (m.orient o) = m.dilate.orient o ∧ opening (m.orient o) = m.opening.orient o := by
  refine ⟨erode_eq_negative m, dilate_eq_negative m, fun o => ?_⟩
  have hmoved := Raster.isMoved_orient o m
  have herode := isMoved_erode hmoved
  exact ⟨herode.unique (Raster.isMoved_orient o m.erode),
    (isMoved_dilate hmoved).unique (Raster.isMoved_orient o m.dilate),
    (isMoved_dilate herode).unique (Raster.isMoved_orient o m.opening)⟩

end Cutout.Matte
