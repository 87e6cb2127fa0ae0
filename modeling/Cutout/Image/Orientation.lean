import Cutout.Image.Picture

/-!
# Orientation

A camera stores the sensor's rows and notes in a tag, numbered 1 to 8, how the picture is to be
turned for viewing. Each value is one of the eight symmetries of a rectangle; values 5 to 8 exchange
width and height. A raster is turned by saying which stored pixel each displayed pixel shows, which is
what `get?_orient` states.
-/

namespace Cutout

/-- The eight ways to turn a stored picture upright, in the order of their tag values 1 to 8. -/
inductive Orientation where
  | asStored
  | mirrorColumns
  | halfTurn
  | mirrorRows
  | transpose
  | quarterTurnClockwise
  | antiTranspose
  | quarterTurnCounterclockwise
  deriving DecidableEq, Repr

namespace Orientation

/-- The orientation with this tag value. -/
def ofTag? : Nat → Option Orientation
  | 1 => some .asStored
  | 2 => some .mirrorColumns
  | 3 => some .halfTurn
  | 4 => some .mirrorRows
  | 5 => some .transpose
  | 6 => some .quarterTurnClockwise
  | 7 => some .antiTranspose
  | 8 => some .quarterTurnCounterclockwise
  | _ => none

/-- Width and height change places. -/
def swapsSides : Orientation → Bool
  | .transpose | .quarterTurnClockwise | .antiTranspose | .quarterTurnCounterclockwise => true
  | _ => false

/-- The column and row of a stored `w` by `h` raster that the displayed pixel in column `x` and
row `y` comes from. -/
def source (o : Orientation) (w h x y : Nat) : Nat × Nat :=
  match o with
  | .asStored => (x, y)
  | .mirrorColumns => (w - 1 - x, y)
  | .halfTurn => (w - 1 - x, h - 1 - y)
  | .mirrorRows => (x, h - 1 - y)
  | .transpose => (y, x)
  | .quarterTurnClockwise => (y, h - 1 - x)
  | .antiTranspose => (w - 1 - y, h - 1 - x)
  | .quarterTurnCounterclockwise => (w - 1 - y, x)

/-- The width of a turned `w` by `h` raster. -/
def outWidth (o : Orientation) (w h : Nat) : Nat :=
  if o.swapsSides then h else w

/-- The height of a turned `w` by `h` raster. -/
def outHeight (o : Orientation) (w h : Nat) : Nat :=
  if o.swapsSides then w else h

/-- A displayed pixel comes from inside the stored raster. -/
theorem source_lt (o : Orientation) {w h x y : Nat} (hx : x < o.outWidth w h)
    (hy : y < o.outHeight w h) : (o.source w h x y).1 < w ∧ (o.source w h x y).2 < h := by
  cases o <;> simp [outWidth, outHeight, swapsSides, source] at * <;> omega

end Orientation

/-- The raster turned upright. -/
def Raster.orient {α : Type} (o : Orientation) (r : Raster α) : Raster α where
  width := o.outWidth r.width r.height
  height := o.outHeight r.width r.height
  pixels := Array.ofFn fun i : Fin (o.outWidth r.width r.height * o.outHeight r.width r.height) =>
    let w := o.outWidth r.width r.height
    -- there is a pixel, so there is a column
    have hw : 0 < w := Nat.pos_of_ne_zero fun h0 => by
      have := i.isLt
      simp [w] at h0
      simp [h0] at this
    have hs := o.source_lt (Nat.mod_lt i.val hw) (Nat.div_lt_of_lt_mul i.isLt)
    let s := o.source r.width r.height (i.val % w) (i.val / w)
    have hb : s.2 * r.width + s.1 < r.pixels.size := Raster.lt_size hs.1 hs.2
    r.pixels[s.2 * r.width + s.1]
  size_pixels := by simp

/-- A displayed pixel is the stored pixel that it comes from. -/
theorem Raster.get?_orient {α : Type} (o : Orientation) (r : Raster α) {x y : Nat}
    (hx : x < o.outWidth r.width r.height) (hy : y < o.outHeight r.width r.height) :
    (r.orient o).get? x y =
      r.get? (o.source r.width r.height x y).1 (o.source r.width r.height x y).2 := by
  have hs := o.source_lt hx hy
  have hm : (y * o.outWidth r.width r.height + x) % o.outWidth r.width r.height = x := by
    rw [Nat.add_comm, Nat.add_mul_mod_self_right, Nat.mod_eq_of_lt hx]
  have hd : (y * o.outWidth r.width r.height + x) / o.outWidth r.width r.height = y := by
    rw [Nat.add_comm, Nat.add_mul_div_right _ _ (by omega), Nat.div_eq_of_lt hx, Nat.zero_add]
  rw [Raster.get?_of_lt hs.1 hs.2]
  have hi := Raster.index_lt hx hy
  have hb := Raster.lt_size hs.1 hs.2
  simp [Raster.get?, Raster.orient, hx, hy, hm, hd, hi, hb]

/-- The picture turned upright. -/
def Picture.orient (o : Orientation) (p : Picture) : Picture :=
  p.rearrange fun r => r.orient o

end Cutout
