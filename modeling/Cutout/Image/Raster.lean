/-!
# Rasters

A raster is a rectangle of pixels, stored row by row. Every operation on images is either a map
over the pixels or a raster given entry by entry; `get?_ofFn` and `get?_map` say what its pixels
are, and `ext_get?` says that nothing but the size and the pixels counts.
-/

namespace Cutout

/-- A rectangle of pixels, row by row from the top. -/
structure Raster (α : Type) where
  width : Nat
  height : Nat
  pixels : Array α
  size_pixels : pixels.size = width * height
  deriving DecidableEq

namespace Raster

variable {α β : Type}

/-- The place of column `x` and row `y` in the row-by-row order. -/
theorem index_lt {w h x y : Nat} (hx : x < w) (hy : y < h) : y * w + x < w * h := by
  have : y * w + w ≤ h * w := by
    rw [← Nat.succ_mul]
    exact Nat.mul_le_mul_right w hy
  rw [Nat.mul_comm w h]
  omega

/-- The pixel in column `x` and row `y`; none outside the rectangle. -/
def get? (r : Raster α) (x y : Nat) : Option α :=
  if x < r.width ∧ y < r.height then r.pixels[y * r.width + x]? else none

/-- The pixel in column `x` and row `y`, or `d` outside the rectangle. -/
def getD (r : Raster α) (x y : Nat) (d : α) : α :=
  (r.get? x y).getD d

/-- The raster whose pixel in column `x` and row `y` is `f x y`. -/
def ofFn (w h : Nat) (f : Nat → Nat → α) : Raster α where
  width := w
  height := h
  pixels := Array.ofFn fun i : Fin (w * h) => f (i.val % w) (i.val / w)
  size_pixels := by simp

/-- The raster with the same pixel everywhere. -/
def fill (w h : Nat) (a : α) : Raster α where
  width := w
  height := h
  pixels := Array.replicate (w * h) a
  size_pixels := by simp

/-- The raster of a list of pixels in row-by-row order, if there are as many as the size asks. -/
def ofArray? (w h : Nat) (pixels : Array α) : Option (Raster α) :=
  if hs : pixels.size = w * h then some ⟨w, h, pixels, hs⟩ else none

/-- Apply a function to every pixel. -/
def map (f : α → β) (r : Raster α) : Raster β where
  width := r.width
  height := r.height
  pixels := r.pixels.map f
  size_pixels := by simpa using r.size_pixels

/-- The pixels in row-by-row order. -/
def toList (r : Raster α) : List α :=
  r.pixels.toList

/-- Two rasters have the same width and the same height. -/
def SameSize (r : Raster α) (s : Raster β) : Prop :=
  r.width = s.width ∧ r.height = s.height

instance (r : Raster α) (s : Raster β) : Decidable (SameSize r s) :=
  inferInstanceAs (Decidable (_ ∧ _))

@[simp] theorem width_ofFn (w h : Nat) (f : Nat → Nat → α) : (ofFn w h f).width = w := rfl

@[simp] theorem height_ofFn (w h : Nat) (f : Nat → Nat → α) : (ofFn w h f).height = h := rfl

@[simp] theorem width_map (f : α → β) (r : Raster α) : (r.map f).width = r.width := rfl

@[simp] theorem height_map (f : α → β) (r : Raster α) : (r.map f).height = r.height := rfl

/-- Inside the rectangle there is a pixel at every place of the row-by-row order. -/
theorem lt_size {r : Raster α} {x y : Nat} (hx : x < r.width) (hy : y < r.height) :
    y * r.width + x < r.pixels.size := by
  rw [r.size_pixels]
  exact index_lt hx hy

theorem get?_of_lt {r : Raster α} {x y : Nat} (hx : x < r.width) (hy : y < r.height) :
    r.get? x y = r.pixels[y * r.width + x]? := by
  simp [get?, hx, hy]

theorem get?_eq_none {r : Raster α} {x y : Nat} (h : ¬(x < r.width ∧ y < r.height)) :
    r.get? x y = none := by
  simp [get?, h]

theorem isSome_get? {r : Raster α} {x y : Nat} :
    (r.get? x y).isSome = true ↔ x < r.width ∧ y < r.height := by
  by_cases h : x < r.width ∧ y < r.height
  · simp [get?, h, lt_size h.1 h.2]
  · simp [get?, h]

@[simp] theorem get?_ofFn (w h : Nat) (f : Nat → Nat → α) (x y : Nat) :
    (ofFn w h f).get? x y = if x < w ∧ y < h then some (f x y) else none := by
  by_cases hb : x < w ∧ y < h
  · have hm : (y * w + x) % w = x := by
      rw [Nat.add_comm, Nat.add_mul_mod_self_right, Nat.mod_eq_of_lt hb.1]
    have hd : (y * w + x) / w = y := by
      rw [Nat.add_comm, Nat.add_mul_div_right _ _ (by omega), Nat.div_eq_of_lt hb.1]
      omega
    simp [get?, ofFn, hb, hm, hd, index_lt hb.1 hb.2]
  · simp [get?, ofFn, hb]

@[simp] theorem get?_map (f : α → β) (r : Raster α) (x y : Nat) :
    (r.map f).get? x y = (r.get? x y).map f := by
  by_cases hb : x < r.width ∧ y < r.height <;> simp [get?, map, hb]

/-- A raster is its size and its pixels. -/
theorem ext_get? {r s : Raster α} (hw : r.width = s.width) (hh : r.height = s.height)
    (hp : ∀ x y, r.get? x y = s.get? x y) : r = s := by
  obtain ⟨w, h, p, hs⟩ := r
  obtain ⟨w', h', q, ht⟩ := s
  obtain rfl : w = w' := hw
  obtain rfl : h = h' := hh
  congr
  apply Array.ext (by rw [hs, ht])
  intro i hi hj
  have hwh : i < w * h := by rw [← hs]; exact hi
  have hw0 : 0 < w := Nat.pos_of_ne_zero (by rintro rfl; simp at hwh)
  have hx : i % w < w := Nat.mod_lt _ hw0
  have hy : i / w < h := Nat.div_lt_of_lt_mul hwh
  have := hp (i % w) (i / w)
  simpa [get?, hx, hy, Nat.div_add_mod', hi, hj] using this

end Raster

end Cutout
