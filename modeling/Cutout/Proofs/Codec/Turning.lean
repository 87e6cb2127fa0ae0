import Mathlib.Logic.ExistsUnique
import Cutout.Proofs.Codec.Extent
import Cutout.Proofs.Codec.Notes

/-!
# Turning a picture upright

A turned raster is described from the stored one: `Orientation.target` says where each stored pixel is
displayed, `Raster.IsMoved` that a raster has the stored pixels there and nothing else. Where a pixel goes
does not depend on what it is, so that turning commutes with every map over the pixels, the conversion to
colour with opacity (`Picture.toRgba8_orient`) and the reading of the samples (`Picture.samples_orient`).
A file that is read both ways therefore gives the same pixels in two arrangements
(`readUpright_moves_stored`): the orientation is the one that the bytes of the file note
(`Orientation.IsNoted`), and a file that notes none is displayed as it is stored.
-/

namespace Cutout

/-! ## Places -/

namespace Orientation

/-- The tag value of an orientation. -/
def tag : Orientation → Nat
  | .asStored => 1
  | .mirrorColumns => 2
  | .halfTurn => 3
  | .mirrorRows => 4
  | .transpose => 5
  | .quarterTurnClockwise => 6
  | .antiTranspose => 7
  | .quarterTurnCounterclockwise => 8

/-- A number that is missing or not the value of an orientation leaves a picture as it is stored. -/
theorem tag_bind_ofTag? (n? : Option Nat) :
    ((n?.bind ofTag?).getD .asStored).tag =
      match n? with
      | some n => if 1 ≤ n ∧ n ≤ 8 then n else 1
      | none => 1 := by
  cases n? with
  | none => rfl
  | some n =>
    simp only [Option.bind_some]
    unfold ofTag?
    split
    case h_9 =>
      have hn : ¬(1 ≤ n ∧ n ≤ 8) := by grind
      simp only [hn, if_false]
      rfl
    all_goals rfl

/-- The sides change places for the last four tag values. -/
theorem swapsSides_iff (o : Orientation) : o.swapsSides = true ↔ 5 ≤ o.tag := by
  cases o <;> decide

/-- The column and row in which the pixel in column `x` and row `y` of a stored `w` by `h` raster is
displayed. -/
def target (o : Orientation) (w h x y : Nat) : Nat × Nat :=
  match o with
  | .asStored => (x, y)
  | .mirrorColumns => (w - 1 - x, y)
  | .halfTurn => (w - 1 - x, h - 1 - y)
  | .mirrorRows => (x, h - 1 - y)
  | .transpose => (y, x)
  | .quarterTurnClockwise => (h - 1 - y, x)
  | .antiTranspose => (h - 1 - y, w - 1 - x)
  | .quarterTurnCounterclockwise => (y, w - 1 - x)

variable {w h x y : Nat}

theorem target_lt (o : Orientation) (hx : x < w) (hy : y < h) :
    (o.target w h x y).1 < o.outWidth w h ∧ (o.target w h x y).2 < o.outHeight w h := by
  cases o <;> simp [outWidth, outHeight, swapsSides, target] <;> omega

/-- The pixel that is displayed where a stored pixel goes is that pixel. -/
theorem source_target (o : Orientation) (hx : x < w) (hy : y < h) :
    o.source w h (o.target w h x y).1 (o.target w h x y).2 = (x, y) := by
  cases o <;> simp [source, target] <;> omega

/-- A stored pixel goes where it is displayed. -/
theorem target_source (o : Orientation) (hx : x < o.outWidth w h) (hy : y < o.outHeight w h) :
    o.target w h (o.source w h x y).1 (o.source w h x y).2 = (x, y) := by
  cases o <;> simp [outWidth, outHeight, swapsSides, source, target] at * <;> omega

end Orientation

/-! ## Rasters -/

namespace Raster

variable {α β : Type}

/-- The pixels of the stored raster `r` are those of the displayed raster `s`, each of them once and in the
place that `o` gives it. -/
structure IsMoved (o : Orientation) (r s : Raster α) : Prop where
  /-- The last four tag values exchange the sides. -/
  width : s.width = if 5 ≤ o.tag then r.height else r.width
  height : s.height = if 5 ≤ o.tag then r.width else r.height
  /-- A stored pixel is displayed in its place. -/
  displayed : ∀ x y, x < r.width → y < r.height →
    s.get? (o.target r.width r.height x y).1 (o.target r.width r.height x y).2 = r.get? x y
  /-- In every place a single stored pixel is displayed. -/
  stored : ∀ x' y', x' < s.width → y' < s.height →
    ∃! place : Nat × Nat, (place.1 < r.width ∧ place.2 < r.height) ∧
      o.target r.width r.height place.1 place.2 = (x', y')

/-- A raster is displayed in one way only. -/
theorem IsMoved.unique {o : Orientation} {r s s' : Raster α} (h : r.IsMoved o s) (h' : r.IsMoved o s') :
    s = s' := by
  have hwidth : s.width = s'.width := h.width.trans h'.width.symm
  have hheight : s.height = s'.height := h.height.trans h'.height.symm
  refine ext_get? hwidth hheight fun x' y' => ?_
  by_cases hplace : x' < s.width ∧ y' < s.height
  · obtain ⟨⟨x, y⟩, ⟨⟨hx, hy⟩, htarget⟩, -⟩ := h.stored x' y' hplace.1 hplace.2
    have hs := h.displayed x y hx hy
    have hs' := h'.displayed x y hx hy
    rw [htarget] at hs hs'
    exact hs.trans hs'.symm
  · rw [get?_eq_none hplace, get?_eq_none (by rwa [hwidth, hheight] at hplace)]

/-- **A turned raster has the stored pixels in their places.** -/
theorem isMoved_orient (o : Orientation) (r : Raster α) : r.IsMoved o (r.orient o) where
  width := by
    change o.outWidth r.width r.height = _
    simp only [Orientation.outWidth, o.swapsSides_iff]
  height := by
    change o.outHeight r.width r.height = _
    simp only [Orientation.outHeight, o.swapsSides_iff]
  displayed x y hx hy := by
    obtain ⟨hx', hy'⟩ := o.target_lt hx hy
    rw [get?_orient o r hx' hy', o.source_target hx hy]
  stored x' y' hx' hy' := by
    refine ⟨o.source r.width r.height x' y', ⟨o.source_lt hx' hy', o.target_source hx' hy'⟩, ?_⟩
    rintro ⟨x, y⟩ ⟨⟨hx, hy⟩, htarget⟩
    rw [← o.source_target hx hy, htarget]

/-- What is done to each pixel does not move it. -/
theorem IsMoved.map {o : Orientation} {r s : Raster α} (h : r.IsMoved o s) (f : α → β) :
    (r.map f).IsMoved o (s.map f) where
  width := h.width
  height := h.height
  displayed x y hx hy := by
    rw [get?_map, get?_map, ← h.displayed x y hx hy]
    rfl
  stored := h.stored

/-- Turning does not look at the pixels. -/
theorem orient_map (f : α → β) (o : Orientation) (r : Raster α) :
    (r.map f).orient o = (r.orient o).map f :=
  (isMoved_orient o (r.map f)).unique ((isMoved_orient o r).map f)

end Raster

/-! ## Pictures -/

namespace Picture

/-- The samples of the pixels as they are stored, at eight or sixteen bits. -/
def samples : Picture → Raster (List Nat)
  | .l8 r => r.map fun v => [v.toNat]
  | .la8 r => r.map fun p => [p.gray.toNat, p.alpha.toNat]
  | .rgb8 r => r.map fun p => [p.red.toNat, p.green.toNat, p.blue.toNat]
  | .rgba8 r => r.map fun p => [p.red.toNat, p.green.toNat, p.blue.toNat, p.alpha.toNat]
  | .l16 r => r.map fun v => [v.toNat]
  | .la16 r => r.map fun p => [p.gray.toNat, p.alpha.toNat]
  | .rgb16 r => r.map fun p => [p.red.toNat, p.green.toNat, p.blue.toNat]
  | .rgba16 r => r.map fun p => [p.red.toNat, p.green.toNat, p.blue.toNat, p.alpha.toNat]

theorem pixelType_orient (o : Orientation) (p : Picture) : (p.orient o).pixelType = p.pixelType := by
  cases p <;> rfl

theorem samples_orient (o : Orientation) (p : Picture) :
    (p.orient o).samples = p.samples.orient o := by
  cases p <;> exact (Raster.orient_map _ o _).symm

/-- Bringing a picture to colour with opacity and turning it may change places. -/
theorem toRgba8_orient (o : Orientation) (p : Picture) :
    (p.orient o).toRgba8 = p.toRgba8.orient o := by
  cases p with
  | rgba8 r => rfl
  | _ => exact (Raster.orient_map _ o _).symm

end Picture

/-! ## Files -/

/-- An orientation is the one that a file notes: the number that it notes is its tag value, or else the
picture is left as it is stored. -/
structure Orientation.IsNoted (o : Orientation) (b : Bytes) : Prop where
  noted : ∀ n, Notes b n → o.tag = if 1 ≤ n ∧ n ≤ 8 then n else 1
  absent : (∀ n, ¬Notes b n) → o.tag = 1

theorem Orientation.isNoted_of_ofBytes [FurtherReaders] {b : Bytes} {s : Source}
    {tag : Option Orientation} (h : Source.ofBytes b = .ok s) (htag : s.orientation = .ok tag) :
    (tag.getD .asStored).IsNoted b := by
  obtain ⟨n?, rfl, hnotes⟩ := Source.ofBytes_notes h htag
  have hvalue := tag_bind_ofTag? n?
  constructor
  · intro n hn
    rw [hvalue, (hnotes n).2 hn]
  · intro hnone
    have hn? : n? = none := Option.eq_none_iff_forall_ne_some.2 fun n hn => hnone n ((hnotes n).1 hn)
    rw [hvalue, hn?]

/-- **A file that is read both ways gives the same pixels in two arrangements.** The orientation that it
notes, or none, says how the picture read upright is arranged; its pixel type and the samples of its pixels
are the stored ones, in colour with opacity it has the pixels of the picture read as it is stored. -/
theorem readUpright_moves_stored [FurtherReaders] {b : Bytes} {r : Raster (Rgba UInt8)} {q : Picture}
    (hr : readStored b = .ok r) (hq : readUpright b = .ok q) :
    ∃ (o : Orientation) (s : Source) (p : Picture), o.IsNoted b ∧
      Source.ofBytes b = .ok s ∧ s.picture memoryLimit = .ok p ∧
      p.toRgba8 = r ∧ q.pixelType = p.pixelType ∧
      r.IsMoved o q.toRgba8 ∧ p.samples.IsMoved o q.samples := by
  obtain ⟨s, p, hs, hp, -, rfl⟩ := readStored_eq_ok_iff.1 hr
  obtain ⟨s', tag, p', hs', htag, hp', rfl⟩ := readUpright_eq_ok_iff.1 hq
  -- both ways open the same file and read the same pixels
  obtain rfl : s = s' := Except.ok.inj (hs.symm.trans hs')
  have hfull : s.picture memoryLimit = .ok p := by
    have hless : memoryLimit - s.size ≤ memoryLimit := Nat.sub_le _ _
    obtain heq | hrefused := (Source.ofBytes_isSound b s hs).memory _ _ hless
    · exact heq.symm.trans hp
    · exact nomatch hrefused.symm.trans hp
  obtain rfl : p = p' := Except.ok.inj (hfull.symm.trans hp')
  refine ⟨tag.getD .asStored, s, p, Orientation.isNoted_of_ofBytes hs htag, hs, hfull, rfl,
    p.pixelType_orient _, ?_, ?_⟩
  · rw [Picture.toRgba8_orient]
    exact Raster.isMoved_orient _ _
  · rw [Picture.samples_orient]
    exact Raster.isMoved_orient _ _

/-- A gray photograph of two blocks: the left one is bright and the right one is dark. -/
def landscape : Bytes :=
  [0xFF, 0xD8] ++ ([0xFF, 0xDB, 0, 67, 0] ++ List.replicate 64 8) ++
    [0xFF, 0xC0, 0, 11, 8, 0, 8, 0, 16, 1, 1, 0x11, 0] ++
    ([0xFF, 0xC4, 0, 21, 0, 1, 1] ++ List.replicate 14 0 ++ [7, 8]) ++
    ([0xFF, 0xC4, 0, 20, 0x10, 1] ++ List.replicate 15 0 ++ [0]) ++
    [0xFF, 0xDA, 0, 8, 1, 1, 0, 0, 63, 0] ++ [0x64, 0x46, 0xEF, 0xFF, 0xD9]

/-- The photograph has no notes of its own. -/
theorem front_landscape :
    ∃ segments, Jpeg.Front (landscape.drop 2) segments ∧
      ∀ segment ∈ segments, Jpeg.notesOf segment = none := by
  have hscan := Jpeg.Front.scan ([0, 8, 1, 1, 0, 0, 63, 0] ++ [0x64, 0x46, 0xEF, 0xFF, 0xD9])
  have hchanging := @Jpeg.Front.segment 0xC4 [0, 20] ([0x10, 1] ++ List.replicate 15 0 ++ [0]) _ _
    (by decide) (by decide +kernel) hscan
  have hsteady := @Jpeg.Front.segment 0xC4 [0, 21] ([0, 1, 1] ++ List.replicate 14 0 ++ [7, 8]) _ _
    (by decide) (by decide +kernel) hchanging
  have hframe := @Jpeg.Front.segment 0xC0 [0, 11] [8, 0, 8, 0, 16, 1, 1, 0x11, 0] _ _
    (by decide) (by decide +kernel) hsteady
  have hscales := @Jpeg.Front.segment 0xDB [0, 67] (0 :: List.replicate 64 8) _ _
    (by decide) (by decide +kernel) hframe
  refine ⟨_, Eq.subst (motive := fun b => Jpeg.Front b _) ?_ hscales, ?_⟩
  · decide +kernel
  · decide

theorem Except.exists_ok_of_toOption {ε α β : Type} {x : Except ε α} {f : α → β} {b : β}
    (h : x.toOption.map f = some b) : ∃ a, x = .ok a ∧ f a = b := by
  cases x with
  | error e => cases h
  | ok a => exact ⟨a, rfl, Option.some.inj h⟩

/-- Held on its side, the photograph is bright at the top. -/
theorem readUpright_moves_landscape :
    ∃ r q, readStored (Jpeg.withOrientation 6 landscape) = .ok r ∧
      readUpright (Jpeg.withOrientation 6 landscape) = .ok q ∧ r.width = 16 ∧ r.height = 8 ∧
      q.pixelType = .l8 ∧ r.IsMoved .quarterTurnClockwise q.toRgba8 ∧
      q.toRgba8.get? 7 0 = some ⟨228, 228, 228, 255⟩ ∧ q.toRgba8.get? 0 15 = some ⟨28, 28, 28, 255⟩ := by
  obtain ⟨r, hr, hsize⟩ := Except.exists_ok_of_toOption
    (show (readStored (Jpeg.withOrientation 6 landscape)).toOption.map (fun r => (r.width, r.height)) =
      some (16, 8) by decide +kernel)
  obtain ⟨q, hq, hpixels⟩ := Except.exists_ok_of_toOption
    (show (readUpright (Jpeg.withOrientation 6 landscape)).toOption.map
      (fun q => (q.pixelType, q.toRgba8.get? 7 0, q.toRgba8.get? 0 15)) =
        some (.l8, some ⟨228, 228, 228, 255⟩, some ⟨28, 28, 28, 255⟩) by decide +kernel)
  obtain ⟨hwidth, hheight⟩ := Prod.mk.inj hsize
  obtain ⟨htype, hcorners⟩ := Prod.mk.inj hpixels
  obtain ⟨hbright, hdark⟩ := Prod.mk.inj hcorners
  obtain ⟨o, s, p, ho, -, -, -, -, hmoved, -⟩ := readUpright_moves_stored hr hq
  obtain ⟨segments, hfront, hnone⟩ := front_landscape
  have htag : o.tag = 6 := ho.noted 6 (Jpeg.notes_withOrientation rfl hfront hnone (by decide))
  obtain rfl : o = .quarterTurnClockwise := by cases o <;> first | rfl | cases htag
  exact ⟨r, q, hr, hq, hwidth, hheight, htype, hmoved, hbright, hdark⟩

end Cutout
