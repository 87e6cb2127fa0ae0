import Cutout.Proofs.Matte.Blur
import Cutout.Proofs.Network.Integrity
import Mathlib.Logic.Function.Iterate

/-!
# How far cleaning reaches

An operation on mattes is local if it keeps the size, and a pixel of the result depends on the pixels up
to some number of steps away. These numbers add up when operations follow each other (`IsLocal.comp`,
`IsLocal.iterate`): one step for an erosion and for a dilation, five for a blur, and seven for a cleaning
(`isLocal_clean`). Six would not be enough (`clean_ne_of_seventh_pixel`).
-/

namespace Cutout.Matte

/-! ## Local operations -/

/-- Two mattes have the same pixels up to `r` steps from a pixel, along rows and columns. -/
def AgreeNear (r : ℕ) (m n : Matte) (x y : ℕ) : Prop :=
  ∀ x' ≤ x + r, ∀ y' ≤ y + r, x ≤ x' + r → y ≤ y' + r → m.get? x' y' = n.get? x' y'

instance (r : ℕ) (m n : Matte) (x y : ℕ) : Decidable (AgreeNear r m n x y) :=
  inferInstanceAs (Decidable (∀ x' ≤ x + r, ∀ y' ≤ y + r, _))

theorem AgreeNear.get? {r : ℕ} {m n : Matte} {x y : ℕ} (h : AgreeNear r m n x y) (x' y' : ℕ)
    (hx : x' ≤ x + r ∧ x ≤ x' + r) (hy : y' ≤ y + r ∧ y ≤ y' + r) : m.get? x' y' = n.get? x' y' :=
  h x' hx.1 y' hy.1 hx.2 hy.2

/-- An operation keeps the size, and a pixel of the result depends on pixels up to `r` steps away. -/
structure IsLocal (r : ℕ) (f : Matte → Matte) : Prop where
  sameSize : ∀ m, (f m).SameSize m
  get? : ∀ m n x y, m.SameSize n → AgreeNear r m n x y → (f m).get? x y = (f n).get? x y

theorem IsLocal.comp {r s : ℕ} {f g : Matte → Matte} (hf : IsLocal r f) (hg : IsLocal s g) :
    IsLocal (r + s) (g ∘ f) where
  sameSize m := by
    have h := hg.sameSize (f m)
    exact ⟨h.1.trans (hf.sameSize m).1, h.2.trans (hf.sameSize m).2⟩
  get? m n x y hsize hagree := by
    obtain ⟨hmw, hmh⟩ := hf.sameSize m
    obtain ⟨hnw, hnh⟩ := hf.sameSize n
    have hsize' : (f m).SameSize (f n) :=
      ⟨hmw.trans (hsize.1.trans hnw.symm), hmh.trans (hsize.2.trans hnh.symm)⟩
    refine hg.get? (f m) (f n) x y hsize' fun x' hx y' hy hx' hy' => ?_
    exact hf.get? m n x' y' hsize fun x'' _ y'' _ _ _ => hagree.get? _ _ (by omega) (by omega)

theorem isLocal_id : IsLocal 0 id where
  sameSize _ := ⟨rfl, rfl⟩
  get? _ _ _ _ _ hagree := hagree.get? _ _ (by omega) (by omega)

/-- A local operation that is repeated reaches as many times as far. -/
theorem IsLocal.iterate {r : ℕ} {f : Matte → Matte} (hf : IsLocal r f) (n : ℕ) :
    IsLocal (r * n) f^[n] := by
  induction n with
  | zero => exact isLocal_id
  | succ n ih =>
    rw [Function.iterate_succ', Nat.mul_succ]
    exact ih.comp hf

/-! ## The stages of cleaning -/

theorem cross_congr {m n : Matte} {x y : ℕ} (h : AgreeNear 1 m n x y) : m.cross x y = n.cross x y := by
  unfold cross
  rw [h.get? x y (by omega) (by omega),
    h.get? (x - 1) y (by omega) (by omega),
    h.get? (x + 1) y (by omega) (by omega),
    h.get? x (y - 1) (by omega) (by omega),
    h.get? x (y + 1) (by omega) (by omega)]

/-- What is computed from the cross around each pixel reaches one step. -/
theorem isLocal_of_cross (g : List UInt8 → UInt8) :
    IsLocal 1 fun m => Raster.ofFn m.width m.height fun x y => g (m.cross x y) where
  sameSize _ := ⟨rfl, rfl⟩
  get? m n x y hsize hagree := by
    rw [Raster.get?_ofFn, Raster.get?_ofFn, hsize.1, hsize.2, cross_congr hagree]

theorem isLocal_opening : IsLocal 2 opening :=
  (isLocal_of_cross fun l => l.foldl min 255).comp (isLocal_of_cross fun l => l.foldl max 0)

theorem isLocal_blur : IsLocal 5 blur where
  sameSize _ := ⟨rfl, rfl⟩
  get? m n x y hsize hagree := by
    by_cases hb : x < m.width ∧ y < m.height
    · have hb' : x < n.width ∧ y < n.height := by rwa [← hsize.1, ← hsize.2]
      rw [get?_blur m hb.1 hb.2, get?_blur n hb'.1 hb'.2, ← hsize.1, ← hsize.2]
      refine congrArg (some ∘ nearestSample) (weigh_congr fun k hk => weigh_congr fun j hj => ?_)
      rw [Raster.getD, Raster.getD, hagree.get? _ _ (window_near hb.1 hj) (window_near hb.2 hk)]
    · have hb' : ¬(x < n.width ∧ y < n.height) := by rwa [← hsize.1, ← hsize.2]
      rw [Raster.get?_eq_none (r := m.blur) hb, Raster.get?_eq_none (r := n.blur) hb']

theorem isLocal_map (g : UInt8 → UInt8) : IsLocal 0 (Raster.map g) where
  sameSize _ := ⟨rfl, rfl⟩
  get? m n x y _ hagree := by
    rw [Raster.get?_map, Raster.get?_map, hagree.get? _ _ (by omega) (by omega)]

theorem isLocal_clean : IsLocal 7 clean :=
  (isLocal_opening.comp isLocal_blur).comp (isLocal_map decideLevel)

/-- The seventh pixel counts: it decides whether the first is kept. -/
theorem clean_ne_of_seventh_pixel :
    let m : Matte := ⟨8, 1, #[131, 131, 131, 131, 0, 255, 255, 0], rfl⟩
    let m' : Matte := ⟨8, 1, #[131, 131, 131, 131, 0, 255, 255, 255], rfl⟩
    m.SameSize m' ∧ AgreeNear 6 m m' 0 0 ∧ m.clean.get? 0 0 = some 0 ∧ m'.clean.get? 0 0 = some 255 := by
  refine ⟨⟨rfl, rfl⟩, by decide, ?_, ?_⟩
  · decide +kernel
  · decide +kernel

/-! ## Repeated cleaning -/

/-- **Cleaning reaches seven steps.** It keeps the size and leaves nothing but 0 and 255, and a pixel of the
result depends on the pixels up to seven steps away. After any number of cleanings the matte can be applied
to a picture of its size, and its pixels depend on those up to seven times as many steps away. -/
theorem clean_reach (m : Matte) :
    (m.clean.SameSize m ∧ ∀ x y a, m.clean.get? x y = some a → a = 0 ∨ a = 255) ∧
    (∀ m' : Matte, m.SameSize m' → ∀ x y, AgreeNear 7 m m' x y → m.clean.get? x y = m'.clean.get? x y) ∧
    ∀ n ≥ 1,
      (∀ image : Raster (Rgba UInt8), image.SameSize m →
        ∃ r, image.cutBy? (clean^[n] m) = some r ∧ r.SameSize image ∧ ∀ x y p, r.get? x y = some p →
          (clean^[n] m).get? x y = some p.alpha ∧ (p.alpha = 0 ∨ p.alpha = 255)) ∧
      ∀ m' : Matte, m.SameSize m' → ∀ x y, AgreeNear (7 * n) m m' x y →
        (clean^[n] m).get? x y = (clean^[n] m').get? x y := by
  refine ⟨⟨⟨rfl, rfl⟩, fun x y a => get?_clean⟩, fun m' hsize x y => isLocal_clean.get? m m' x y hsize,
    fun n hn => ⟨fun image himage => ?_, fun m' hsize x y => (isLocal_clean.iterate n).get? m m' x y hsize⟩⟩
  obtain ⟨hwidth, hheight⟩ := (isLocal_clean.iterate n).sameSize m
  obtain ⟨r, hr⟩ : ∃ r, image.cutBy? (clean^[n] m) = some r :=
    Raster.exists_cutBy? ⟨himage.1.trans hwidth.symm, himage.2.trans hheight.symm⟩
  obtain ⟨hrwidth, hrheight, hpixels⟩ := Raster.get?_of_cutBy? hr
  refine ⟨r, hr, ⟨hrwidth, hrheight⟩, fun x y p hp => ?_⟩
  obtain ⟨old, a, -, ha, rfl⟩ := hpixels x y p hp
  rw [Rgba.alpha_under]
  refine ⟨ha, ?_⟩
  obtain ⟨k, rfl⟩ : ∃ k, n = k + 1 := ⟨n - 1, by omega⟩
  rw [Function.iterate_succ_apply'] at ha
  exact get?_clean ha

theorem clean_reach_row :
    let m : Matte := ⟨9, 1, #[131, 131, 131, 131, 0, 255, 255, 0, 0], rfl⟩
    let m' : Matte := ⟨9, 1, #[131, 131, 131, 131, 0, 255, 255, 0, 255], rfl⟩
    m.clean.get? 0 0 = m'.clean.get? 0 0 ∧
      ∃ r, (Raster.fill 9 1 Rgba.clear).cutBy? (clean^[2] m) = some r ∧ r.width = 9 := by
  intro m m'
  obtain ⟨-, hlocal, hiterate⟩ := clean_reach m
  refine ⟨hlocal m' ⟨rfl, rfl⟩ 0 0 (by decide), ?_⟩
  obtain ⟨r, hr, hsize, -⟩ := (hiterate 2 (by decide)).1 (Raster.fill 9 1 Rgba.clear) ⟨rfl, rfl⟩
  exact ⟨r, hr, hsize.1⟩

end Cutout.Matte
