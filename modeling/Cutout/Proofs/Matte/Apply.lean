import Cutout.Matte.Apply

/-!
# What a matte hides

A cutout is given pixel by pixel (`Raster.cutBy?_eq_some_iff`): it has the matte as its opacity, and the
colours of the picture where the matte is not 0. Nothing else of the picture can be told from it, so that
two pictures have the same cutout exactly if their colours agree wherever something is seen of them
(`Raster.cut_hides`).
-/

namespace Cutout

/-! ## Pixels -/

namespace Rgba

/-- What is left of a pixel: nothing, or its colours under some opacity. -/
inductive IsCutOf (old : Rgba UInt8) : Rgba UInt8 → Prop
  | cleared : IsCutOf old Rgba.clear
  | kept {alpha : UInt8} : alpha ≠ 0 → IsCutOf old ⟨old.red, old.green, old.blue, alpha⟩

theorem isCutOf_under (p : Rgba UInt8) (alpha : UInt8) : p.IsCutOf (p.under alpha) := by
  unfold under
  split
  · exact .cleared
  · next halpha => exact .kept halpha

theorem alpha_under (p : Rgba UInt8) (alpha : UInt8) : (p.under alpha).alpha = alpha := by
  unfold under
  split
  · next halpha => exact halpha.symm
  · rfl

/-- Two pixels have the same colours, whatever their opacity is. -/
def SameColors (p q : Rgba UInt8) : Prop :=
  p.red = q.red ∧ p.green = q.green ∧ p.blue = q.blue

/-- A pixel without its colours if a value of a matte hides them. Its opacity stays. -/
def blackenedBy (p : Rgba UInt8) (a : UInt8) : Rgba UInt8 :=
  if a = 0 then ⟨0, 0, 0, p.alpha⟩ else p

@[simp] theorem under_zero (p : Rgba UInt8) : p.under 0 = clear := rfl

theorem under_of_ne {a : UInt8} (h : a ≠ 0) (p : Rgba UInt8) :
    p.under a = ⟨p.red, p.green, p.blue, a⟩ :=
  if_neg h

/-- **Under a value that is not 0 the colours are seen**, and under 0 nothing is. -/
theorem under_eq_under_iff {p q : Rgba UInt8} {a : UInt8} :
    p.under a = q.under a ↔ (a ≠ 0 → p.SameColors q) := by
  by_cases h : a = 0
  · subst h
    simp
  · rw [under_of_ne h, under_of_ne h]
    simp [h, SameColors]

theorem sameColors_under {a : UInt8} (h : a ≠ 0) (p : Rgba UInt8) : (p.under a).SameColors p := by
  rw [under_of_ne h]
  exact ⟨rfl, rfl, rfl⟩

theorem sameColors_blackenedBy (p : Rgba UInt8) (a : UInt8) :
    (p.under a).SameColors (p.blackenedBy a) := by
  unfold blackenedBy
  split
  · next h =>
    subst h
    exact ⟨rfl, rfl, rfl⟩
  · next h => exact sameColors_under h p

end Rgba

/-! ## Pictures -/

namespace Raster

section

variable {α β : Type}

theorem SameSize.symm {r : Raster α} {s : Raster β} (h : r.SameSize s) : s.SameSize r :=
  ⟨h.1.symm, h.2.symm⟩

theorem SameSize.trans {γ : Type} {r : Raster α} {s : Raster β} {t : Raster γ} (h : r.SameSize s)
    (h' : s.SameSize t) : r.SameSize t :=
  ⟨h.1.trans h'.1, h.2.trans h'.2⟩

/-- Rasters of the same size have pixels at the same places. -/
theorem SameSize.get?_cases {r : Raster α} {s : Raster β} (h : r.SameSize s) (x y : Nat) :
    (∃ a b, r.get? x y = some a ∧ s.get? x y = some b) ∨
      r.get? x y = none ∧ s.get? x y = none := by
  by_cases hin : x < r.width ∧ y < r.height
  · have hin' : x < s.width ∧ y < s.height := by rwa [← h.1, ← h.2]
    obtain ⟨a, ha⟩ := Option.isSome_iff_exists.1 (isSome_get?.2 hin)
    obtain ⟨b, hb⟩ := Option.isSome_iff_exists.1 (isSome_get?.2 hin')
    exact .inl ⟨a, b, ha, hb⟩
  · have hout : ¬(x < s.width ∧ y < s.height) := by rwa [← h.1, ← h.2]
    exact .inr ⟨get?_eq_none hin, get?_eq_none hout⟩

/-- The raster that is given pixel by pixel from two others of the same size. -/
theorem get?_ofFn_getD {γ : Type} {r : Raster α} {s : Raster β} (h : r.SameSize s) (f : α → β → γ)
    (a : α) (b : β) (x y : Nat) :
    (ofFn r.width r.height fun x y => f (r.getD x y a) (s.getD x y b)).get? x y =
      (r.get? x y).bind fun p => (s.get? x y).map (f p) := by
  rw [get?_ofFn]
  rcases h.get?_cases x y with ⟨p, q, hp, hq⟩ | ⟨hp, hq⟩
  · rw [if_pos (isSome_get?.1 (by rw [hp]; rfl)), getD, getD, hp, hq]
    rfl
  · rw [if_neg, hp]
    · rfl
    · intro hin
      rw [← isSome_get?, hp] at hin
      cases hin

end

variable {image other r : Raster (Rgba UInt8)} {matte : Matte}

/-- A matte of the size of the picture can be applied. -/
theorem exists_cutBy? (h : image.SameSize matte) : ∃ r, image.cutBy? matte = some r :=
  ⟨_, if_pos h⟩

theorem cutBy?_eq_none_iff :
    image.cutBy? matte = none ↔ image.width ≠ matte.width ∨ image.height ≠ matte.height := by
  by_cases h : image.SameSize matte
  · obtain ⟨r, hr⟩ := exists_cutBy? h
    rw [hr]
    exact iff_of_false nofun fun hne => hne.elim (· h.1) (· h.2)
  · exact iff_of_true (if_neg h) (Decidable.not_and_iff_not_or_not.1 h)

/-- **A cutout is given pixel by pixel**: the pixel of the picture under the value of the matte. -/
theorem cutBy?_eq_some_iff :
    image.cutBy? matte = some r ↔ image.SameSize matte ∧ r.SameSize image ∧
      ∀ x y, r.get? x y = (image.get? x y).bind fun p => (matte.get? x y).map p.under := by
  constructor
  · intro h
    unfold cutBy? at h
    split at h
    · next hsize =>
      obtain rfl := Option.some.inj h
      exact ⟨hsize, ⟨rfl, rfl⟩, get?_ofFn_getD hsize Rgba.under Rgba.clear 0⟩
    · cases h
  · rintro ⟨hsize, hr, hpixels⟩
    unfold cutBy?
    rw [if_pos hsize]
    refine congrArg some (ext_get? hr.1.symm hr.2.symm fun x y => ?_)
    rw [hpixels, get?_ofFn_getD hsize Rgba.under Rgba.clear 0]

/-- The cutout has the size of the picture, and each of its pixels is the one of the picture at the
same place, under the value of the matte at this place. -/
theorem get?_of_cutBy? (h : image.cutBy? matte = some r) :
    r.width = image.width ∧ r.height = image.height ∧
      ∀ x y q, r.get? x y = some q → ∃ p a, image.get? x y = some p ∧ matte.get? x y = some a ∧
        q = p.under a := by
  obtain ⟨-, hr, hpixels⟩ := cutBy?_eq_some_iff.1 h
  refine ⟨hr.1, hr.2, fun x y q hq => ?_⟩
  rw [hpixels, Option.bind_eq_some_iff] at hq
  obtain ⟨p, hp, hq⟩ := hq
  obtain ⟨a, ha, rfl⟩ := Option.map_eq_some_iff.1 hq
  exact ⟨p, a, hp, ha, rfl⟩

/-- The opacity of a cutout is the matte. -/
theorem map_alpha_of_cutBy? (h : image.cutBy? matte = some r) : r.map Rgba.alpha = matte := by
  obtain ⟨hsize, hr, hpixels⟩ := cutBy?_eq_some_iff.1 h
  refine ext_get? (hr.trans hsize).1 (hr.trans hsize).2 fun x y => ?_
  rw [get?_map, hpixels]
  rcases hsize.get?_cases x y with ⟨p, a, hp, ha⟩ | ⟨hp, ha⟩
  · rw [hp, ha]
    exact congrArg some (p.alpha_under a)
  · rw [hp, ha]
    rfl

/-! ## What is seen through a matte -/

/-- Two pictures have the same colours wherever a matte is not 0. -/
def AgreeThrough (matte : Matte) (image other : Raster (Rgba UInt8)) : Prop :=
  ∀ x y p q a, image.get? x y = some p → other.get? x y = some q → matte.get? x y = some a → a ≠ 0 →
    p.SameColors q

/-- A picture without the colours that a matte hides. -/
def blackenedBy (image : Raster (Rgba UInt8)) (matte : Matte) : Raster (Rgba UInt8) :=
  ofFn image.width image.height fun x y =>
    (image.getD x y Rgba.clear).blackenedBy (matte.getD x y 0)

theorem cutBy?_eq_iff (h : image.SameSize matte) (h' : other.SameSize matte) :
    image.cutBy? matte = other.cutBy? matte ↔ AgreeThrough matte image other := by
  obtain ⟨r, hr⟩ := exists_cutBy? h
  obtain ⟨-, hsize, hpixels⟩ := cutBy?_eq_some_iff.1 hr
  rw [hr, eq_comm, cutBy?_eq_some_iff]
  constructor
  · rintro ⟨-, -, hpixels'⟩ x y p q a hp hq ha
    have hunder := (hpixels x y).symm.trans (hpixels' x y)
    rw [hp, hq, ha] at hunder
    exact Rgba.under_eq_under_iff.1 (Option.some.inj hunder)
  · refine fun hagree => ⟨h', hsize.trans (h.trans h'.symm), fun x y => ?_⟩
    rw [hpixels]
    rcases h.get?_cases x y with ⟨p, a, hp, ha⟩ | ⟨hp, ha⟩
    · rcases h'.get?_cases x y with ⟨q, -, hq, -⟩ | ⟨-, hnone⟩
      · rw [hp, hq, ha]
        exact congrArg some (Rgba.under_eq_under_iff.2 (hagree x y p q a hp hq ha))
      · rw [ha] at hnone
        cases hnone
    · rcases h'.get?_cases x y with ⟨-, a, -, hsome⟩ | ⟨hq, -⟩
      · rw [ha] at hsome
        cases hsome
      · rw [hp, hq]

/-- A matte can be applied to a cutout again, and changes nothing. -/
theorem cutBy?_self (h : image.cutBy? matte = some r) : r.cutBy? matte = some r := by
  obtain ⟨hsize, hr, -⟩ := cutBy?_eq_some_iff.1 h
  rw [← h]
  refine (cutBy?_eq_iff (hr.trans hsize) hsize).2 fun x y q p a hq hp ha hne => ?_
  obtain ⟨p', a', hp', ha', rfl⟩ := (get?_of_cutBy? h).2.2 x y q hq
  rw [hp, Option.some_inj] at hp'
  rw [ha, Option.some_inj] at ha'
  subst hp' ha'
  exact Rgba.sameColors_under hne p

/-- What comes of a cutout under another matte. -/
theorem cutBy?_cutBy? (h : image.cutBy? matte = some r) (next : Matte) :
    r.cutBy? next = (image.blackenedBy matte).cutBy? next := by
  obtain ⟨hsize, hr, -⟩ := cutBy?_eq_some_iff.1 h
  by_cases hnext : r.SameSize next
  · have hblack : (image.blackenedBy matte).SameSize next := hr.symm.trans hnext
    refine (cutBy?_eq_iff hnext hblack).2 fun x y q p b hq hp _ _ => ?_
    obtain ⟨old, a, hold, ha, rfl⟩ := (get?_of_cutBy? h).2.2 x y q hq
    rw [blackenedBy, get?_ofFn_getD hsize Rgba.blackenedBy Rgba.clear 0, hold, ha] at hp
    obtain rfl := Option.some.inj hp
    exact old.sameColors_blackenedBy a
  · have hblack : ¬(image.blackenedBy matte).SameSize next := fun h => hnext (hr.trans h)
    unfold cutBy?
    rw [if_neg hnext, if_neg hblack]

/-- **A matte hides all that it does not let through.** There is a cutout unless the sizes differ. Two
pictures of the size of the matte have the same cutout exactly if they have the same colours wherever
the matte is not 0. The opacity of a cutout is the matte; the same matte changes nothing in it, and
another one makes of it what it makes of the picture without the colours that are hidden. -/
theorem cut_hides (matte : Matte) (image other : Raster (Rgba UInt8)) :
    (image.cutBy? matte = none ↔ image.width ≠ matte.width ∨ image.height ≠ matte.height) ∧
    (image.SameSize matte → other.SameSize matte →
      (image.cutBy? matte = other.cutBy? matte ↔ AgreeThrough matte image other)) ∧
    ∀ r, image.cutBy? matte = some r →
      r.map Rgba.alpha = matte ∧ r.cutBy? matte = some r ∧
        ∀ next : Matte, r.cutBy? next = (image.blackenedBy matte).cutBy? next :=
  ⟨cutBy?_eq_none_iff, cutBy?_eq_iff, fun _ h =>
    ⟨map_alpha_of_cutBy? h, cutBy?_self h, cutBy?_cutBy? h⟩⟩

/-- Two pictures that differ in their opacity, and in the colours of a pixel that is hidden, have the
same cutout; it differs from that of a picture with another colour in a pixel that is seen. -/
theorem cut_hides_first_of_two :
    let matte : Matte := ⟨2, 1, #[0, 128], rfl⟩
    let image : Raster (Rgba UInt8) := ⟨2, 1, #[⟨10, 20, 30, 255⟩, ⟨1, 2, 3, 255⟩], rfl⟩
    let other : Raster (Rgba UInt8) := ⟨2, 1, #[⟨99, 0, 7, 4⟩, ⟨1, 2, 3, 40⟩], rfl⟩
    let third : Raster (Rgba UInt8) := ⟨2, 1, #[⟨10, 20, 30, 255⟩, ⟨1, 2, 4, 255⟩], rfl⟩
    AgreeThrough matte image other ∧ ¬AgreeThrough matte image third ∧
      ∃ r, other.cutBy? matte = some r ∧ r.map Rgba.alpha = matte ∧ r.cutBy? matte = some r := by
  intro matte image other third
  have hsize : image.SameSize matte := ⟨rfl, rfl⟩
  have hsame : image.cutBy? matte = other.cutBy? matte := by decide +kernel
  have hdiffer : image.cutBy? matte ≠ third.cutBy? matte := by decide +kernel
  have hcut := (cut_hides matte other other).2.2 _ rfl
  exact ⟨((cut_hides matte image other).2.1 hsize ⟨rfl, rfl⟩).1 hsame,
    fun h => hdiffer (((cut_hides matte image third).2.1 hsize ⟨rfl, rfl⟩).2 h),
    _, rfl, hcut.1, hcut.2.1⟩

end Raster

end Cutout
