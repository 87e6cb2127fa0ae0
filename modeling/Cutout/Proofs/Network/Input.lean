import Cutout.Proofs.Matte.Opening
import Cutout.Proofs.Network.Answer
import Mathlib.Data.List.Perm.Subperm

/-!
# Pictures as input

A network gets a picture as a tensor of three planes. Written pixel by pixel, as the samples stand in the
picture, each number of the tensor is written once (`perm_places`), so that this gives the same tensor as
saying which sample stands at each place (`written_eq_tensorOf`). The samples are scaled by the brightest
one, or by 1 if all is black (`isGreatest_brightest`): the quotients are numbers from zero to one, and what
is left after standardising is a number again, rounded three times (`value_standardise`).
-/

namespace Cutout

open Single

/-! ## Writing -/

namespace Tensor

/-- Write a number at an index. -/
def set (t : Tensor) (index : List ℕ) (v : Float32) : Tensor where
  shape := t.shape
  values := t.values.setIfInBounds (place t.shape index) v
  size_values := by
    rw [Array.size_setIfInBounds]
    exact t.size_values

theorem eq_of_values {t u : Tensor} (hshape : t.shape = u.shape) (hvalues : t.values = u.values) :
    t = u := by
  obtain ⟨shape, values, hsize⟩ := t
  obtain ⟨shape', values', hsize'⟩ := u
  obtain rfl : shape = shape' := hshape
  obtain rfl : values = values' := hvalues
  rfl

section Writing

variable {ι : Type} {index : ι → List ℕ} {v : ι → Float32} {t u : Tensor}

/-- When numbers are written where another tensor has them, the places that are written are as in that
tensor, and the others are as they were. -/
theorem foldl_set {l : List ι} (hshape : t.shape = u.shape)
    (hv : ∀ s ∈ l, u.values[place u.shape (index s)]? = some (v s)) :
    (l.foldl (fun t s => t.set (index s) (v s)) t).shape = u.shape ∧
      ∀ i, (l.foldl (fun t s => t.set (index s) (v s)) t).values[i]? =
        if i ∈ l.map fun s => place u.shape (index s) then u.values[i]? else t.values[i]? := by
  induction l generalizing t with
  | nil => exact ⟨hshape, fun i => by simp⟩
  | cons s l ih =>
    obtain ⟨hhead, htail⟩ := List.forall_mem_cons.1 hv
    obtain ⟨hshape', hvalues⟩ := ih (t := t.set (index s) (v s)) hshape htail
    have hsize : place u.shape (index s) < t.values.size := by
      rw [t.size_values, hshape, ← u.size_values]
      exact (Array.getElem?_eq_some_iff.1 hhead).1
    refine ⟨hshape', fun i => ?_⟩
    rw [List.foldl_cons, hvalues i, List.map_cons]
    -- a place that is written again later gets the same number
    by_cases hlater : i ∈ l.map fun s => place u.shape (index s)
    · rw [if_pos hlater, if_pos (List.mem_cons_of_mem _ hlater)]
    · rw [if_neg hlater]
      show (t.values.setIfInBounds (place t.shape (index s)) (v s))[i]? = _
      rw [hshape]
      by_cases hplace : i = place u.shape (index s)
      · subst hplace
        rw [if_pos List.mem_cons_self, hhead, Array.getElem?_setIfInBounds_self_of_lt hsize]
      · rw [if_neg (List.not_mem_cons_of_ne_of_not_mem hplace hlater),
          Array.getElem?_setIfInBounds_ne (Ne.symm hplace)]

/-- If each place is written, nothing is left of what was there. -/
theorem foldl_set_eq {l : List ι} (hshape : t.shape = u.shape)
    (hplaces : (l.map fun s => place u.shape (index s)).Perm (List.range (volume u.shape)))
    (hv : ∀ s ∈ l, u.values[place u.shape (index s)]? = some (v s)) :
    l.foldl (fun t s => t.set (index s) (v s)) t = u := by
  obtain ⟨hshape', hvalues⟩ := foldl_set hshape hv
  refine eq_of_values hshape' (Array.ext_getElem? fun i => ?_)
  rw [hvalues i]
  split
  · rfl
  · next hmem =>
    have hend : volume u.shape ≤ i := not_lt.1 fun hi => hmem (hplaces.mem_iff.2 (List.mem_range.2 hi))
    rw [Array.getElem?_eq_none (t.size_values.trans_le (hshape ▸ hend)),
      Array.getElem?_eq_none (u.size_values.trans_le hend)]

end Writing

end Tensor

namespace Model

/-! ## Samples and their places -/

/-- A sample of a square picture: its channel, and the row and column of its pixel. -/
structure Spot where
  channel : ℕ
  row : ℕ
  column : ℕ

namespace Spot

/-- The index of a sample in the tensor of one picture. -/
def index (s : Spot) : List ℕ :=
  [0, s.channel, s.row, s.column]

/-- The number that is written for a sample. -/
def number (r : Raster (Rgb UInt8)) (s : Spot) : Float32 :=
  standardise (brightest r) s.channel (channelOf (r.getD s.column s.row ⟨0, 0, 0⟩) s.channel)

end Spot

/-- The samples of a square picture pixel by pixel, row by row. -/
def spots (side : ℕ) : List Spot :=
  (List.range side).flatMap fun y => (List.range side).flatMap fun x =>
    (List.range 3).map fun c => ⟨c, y, x⟩

/-- The tensor of a square picture, written sample by sample over zeros. -/
def written (r : Raster (Rgb UInt8)) (side : ℕ) : Tensor :=
  (spots side).foldl (fun t s => t.set s.index (s.number r)) (Tensor.ofFn [1, 3, side, side] fun _ => 0)

variable {side : ℕ} {s : Spot}

theorem mem_spots : s ∈ spots side ↔ s.channel < 3 ∧ s.row < side ∧ s.column < side := by
  simp only [spots, List.mem_flatMap, List.mem_map, List.mem_range]
  constructor
  · rintro ⟨y, hy, x, hx, c, hc, rfl⟩
    exact ⟨hc, hy, hx⟩
  · rintro ⟨hc, hy, hx⟩
    exact ⟨s.row, hy, s.column, hx, s.channel, hc, rfl⟩

theorem length_spots (side : ℕ) : (spots side).length = 3 * side * side := by
  simp only [spots, List.length_flatMap, List.length_map, List.length_range, List.map_const',
    List.sum_replicate, smul_eq_mul]
  ring

theorem volume_input (side : ℕ) : volume [1, 3, side, side] = 3 * side * side := by
  simp only [volume, List.foldr_cons, List.foldr_nil]
  ring

/-- Planes follow each other, and rows in each plane. -/
theorem place_index (side : ℕ) (s : Spot) :
    Tensor.place [1, 3, side, side] s.index = s.channel * side * side + s.row * side + s.column := by
  simp only [Tensor.place, Spot.index, volume, List.foldr_cons, List.foldr_nil]
  ring

/-- The parts of an index are got back from its place. -/
theorem parts_place (hs : s ∈ spots side) :
    let i := Tensor.place [1, 3, side, side] s.index
    i / (side * side) = s.channel ∧ i % (side * side) / side = s.row ∧ i % side = s.column := by
  obtain ⟨-, hy, hx⟩ := mem_spots.1 hs
  have hplane : s.row * side + s.column < side * side := Raster.index_lt hx hy
  have hsplit : Tensor.place [1, 3, side, side] s.index =
      s.row * side + s.column + side * side * s.channel := by
    rw [place_index]
    ring
  have hrest : (s.row * side + s.column + side * side * s.channel) % (side * side) =
      s.row * side + s.column := by
    rw [Nat.add_mul_mod_self_left, Nat.mod_eq_of_lt hplane]
  have hpos : 0 < side := Nat.zero_lt_of_lt hx
  dsimp only
  rw [hsplit]
  refine ⟨?_, ?_, ?_⟩
  · rw [Nat.add_mul_div_left _ _ (Nat.mul_pos hpos hpos), Nat.div_eq_of_lt hplane, Nat.zero_add]
  · rw [hrest, Nat.mul_comm, Nat.mul_add_div hpos, Nat.div_eq_of_lt hx, Nat.add_zero]
  · rw [← Nat.mod_mod_of_dvd _ (Nat.dvd_mul_left side side), hrest, Nat.mul_comm,
      Nat.mul_add_mod_self_left, Nat.mod_eq_of_lt hx]

/-- At each place of the tensor there is a sample. -/
theorem exists_spot {i : ℕ} (hi : i < 3 * side * side) :
    ∃ s ∈ spots side, Tensor.place [1, 3, side, side] s.index = i := by
  have hi : i < side * side * 3 := by rwa [Nat.mul_comm, ← Nat.mul_assoc]
  have hplane : 0 < side * side := Nat.pos_of_mul_pos_right (Nat.zero_lt_of_lt hi)
  have hside : 0 < side := Nat.pos_of_mul_pos_right hplane
  refine ⟨⟨i / (side * side), i % (side * side) / side, i % side⟩, mem_spots.2 ⟨?_, ?_, ?_⟩, ?_⟩
  · exact Nat.div_lt_of_lt_mul hi
  · exact Nat.div_lt_of_lt_mul (Nat.mod_lt i hplane)
  · exact Nat.mod_lt i hside
  · rw [place_index]
    have hcolumn : i % (side * side) % side = i % side :=
      Nat.mod_mod_of_dvd i (Nat.dvd_mul_left side side)
    have hrow := Nat.div_add_mod' (i % (side * side)) side
    have hchannel := Nat.div_add_mod' i (side * side)
    rw [hcolumn] at hrow
    rw [Nat.add_assoc, hrow, Nat.mul_assoc, hchannel]

/-- **Each place is written once.** -/
theorem perm_places (side : ℕ) :
    ((spots side).map fun s => Tensor.place [1, 3, side, side] s.index).Perm
      (List.range (volume [1, 3, side, side])) := by
  have hsubset : List.range (volume [1, 3, side, side]) ⊆
      (spots side).map fun s => Tensor.place [1, 3, side, side] s.index := by
    intro i hi
    rw [List.mem_range, volume_input] at hi
    exact List.mem_map.2 (exists_spot hi)
  refine ((List.subperm_of_subset List.nodup_range hsubset).perm_of_length_le ?_).symm
  rw [List.length_map, length_spots, List.length_range, volume_input]

variable {r : Raster (Rgb UInt8)}

/-- What is written for a sample is what the tensor has in its place. -/
theorem getElem?_tensorOf (hs : s ∈ spots side) :
    (tensorOf r side).values[Tensor.place [1, 3, side, side] s.index]? = some (s.number r) := by
  have hplace : Tensor.place [1, 3, side, side] s.index < volume [1, 3, side, side] :=
    List.mem_range.1 ((perm_places side).mem_iff.1 (List.mem_map.2 ⟨s, hs, rfl⟩))
  obtain ⟨hchannel, hrow, hcolumn⟩ := parts_place hs
  rw [tensorOf, Tensor.ofFn, Array.getElem?_ofFn, dif_pos hplace]
  dsimp only
  rw [hchannel, hrow, hcolumn]
  rfl

/-- **Written sample by sample, it is the tensor of the picture.** -/
theorem written_eq_tensorOf (r : Raster (Rgb UInt8)) (side : ℕ) : written r side = tensorOf r side :=
  Tensor.foldl_set_eq rfl (perm_places side) fun _ hs => getElem?_tensorOf hs

/-! ## The brightest sample -/

/-- The samples of a picture, of all three channels. -/
def samples (r : Raster (Rgb UInt8)) : Set UInt8 :=
  {v | ∃ x y q, r.get? x y = some q ∧ ∃ c < 3, channelOf q c = v}

end Model

theorem Raster.mem_pixels_iff {α : Type} {r : Raster α} {q : α} :
    q ∈ r.pixels ↔ ∃ x y, r.get? x y = some q := by
  constructor
  · intro hq
    obtain ⟨i, hi, hget⟩ := Array.mem_iff_getElem.1 hq
    have hplace : i < r.width * r.height := by rwa [← r.size_pixels]
    have hwidth : 0 < r.width := Nat.pos_of_mul_pos_right (Nat.zero_lt_of_lt hplace)
    refine ⟨i % r.width, i / r.width, ?_⟩
    rw [get?_of_lt (Nat.mod_lt i hwidth) (Nat.div_lt_of_lt_mul hplace), Nat.div_add_mod',
      Array.getElem?_eq_getElem hi, hget]
  · rintro ⟨x, y, hget⟩
    obtain ⟨hx, hy⟩ := isSome_get?.1 (Option.isSome_of_mem hget)
    rw [get?_of_lt hx hy] at hget
    exact Array.mem_of_getElem? hget

namespace Model

variable {r : Raster (Rgb UInt8)}

theorem mem_samples_iff {v : UInt8} :
    v ∈ samples r ↔ v ∈ r.pixels.toList.flatMap fun q => [q.red, q.green, q.blue] := by
  have hchannels : ∀ q : Rgb UInt8, (∃ c < 3, channelOf q c = v) ↔ v ∈ [q.red, q.green, q.blue] := by
    intro q
    simp only [List.mem_cons, List.not_mem_nil, or_false]
    constructor
    · rintro ⟨c, hc, rfl⟩
      interval_cases c
      · exact .inl rfl
      · exact .inr (.inl rfl)
      · exact .inr (.inr rfl)
    · rintro (rfl | rfl | rfl)
      · exact ⟨0, by decide, rfl⟩
      · exact ⟨1, by decide, rfl⟩
      · exact ⟨2, by decide, rfl⟩
  rw [List.mem_flatMap]
  constructor
  · rintro ⟨x, y, q, hget, hq⟩
    exact ⟨q, Array.mem_toList_iff.2 (Raster.mem_pixels_iff.2 ⟨x, y, hget⟩), (hchannels q).1 hq⟩
  · rintro ⟨q, hmem, hq⟩
    obtain ⟨x, y, hget⟩ := Raster.mem_pixels_iff.1 (Array.mem_toList_iff.1 hmem)
    exact ⟨x, y, q, hget, (hchannels q).2 hq⟩

/-- **The brightest sample**, of all pixels and channels together, and at least 1. -/
theorem isGreatest_brightest (r : Raster (Rgb UInt8)) :
    IsGreatest {v | v = 1 ∨ v ∈ samples r} (brightest r) := by
  have hfold : brightest r =
      (1 :: r.pixels.toList.flatMap fun q => [q.red, q.green, q.blue]).foldl max 0 := by
    rw [List.foldl_cons, List.foldl_flatMap, brightest, ← Array.foldl_toList]
    simp only [List.foldl_cons, List.foldl_nil, max_assoc]
    rfl
  have hset : {v | v = 1 ∨ v ∈ samples r} =
      {v | v ∈ 1 :: r.pixels.toList.flatMap fun q => [q.red, q.green, q.blue]} := by
    ext v
    simp only [Set.mem_ofPred_eq, List.mem_cons, mem_samples_iff]
  rw [hfold, hset]
  exact isGreatest_foldl_max (List.cons_ne_nil _ _) fun _ _ => UInt8.zero_le

/-! ## Scaling -/

/-- A sample scaled by the brightest one. -/
def scale (top v : UInt8) : Float32 :=
  v.toFloat32 / top.toFloat32

section Scaling

variable {top v : UInt8}

theorem toFloat32_pos (htop : 1 ≤ top) : 0 < top.toFloat32 := by
  rw [lt_iff_of_number Matte.value_zero (value_toFloat32 top)]
  exact_mod_cast UInt8.le_iff_toNat_le.1 htop

theorem share_mem (htop : 1 ≤ top) (hv : v ≤ top) :
    0 ≤ (v.toNat / top.toNat : ℚ) ∧ (v.toNat / top.toNat : ℚ) ≤ 1 := by
  have hpos : (0 : ℚ) < top.toNat := by exact_mod_cast UInt8.le_iff_toNat_le.1 htop
  refine ⟨div_nonneg (Nat.cast_nonneg _) hpos.le, (div_le_one hpos).2 ?_⟩
  exact_mod_cast UInt8.le_iff_toNat_le.1 hv

/-- What a scaled sample stands for: the quotient, rounded. -/
def share (top v : UInt8) : ℚ :=
  nearest (v.toNat / top.toNat)

theorem share_nonneg (htop : 1 ≤ top) (hv : v ≤ top) : 0 ≤ share top v :=
  nearest_nonneg (share_mem htop hv).1

theorem share_le_one (htop : 1 ≤ top) (hv : v ≤ top) : share top v ≤ 1 :=
  (nearest_mono (share_mem htop hv).2).trans_eq nearest_one

theorem value_scale (htop : 1 ≤ top) (hv : v ≤ top) : value (scale top v) = .number (share top v) := by
  have hpos : (top.toNat : ℚ) ≠ 0 := by
    have := UInt8.le_iff_toNat_le.1 htop
    exact_mod_cast Nat.one_le_iff_ne_zero.1 this
  unfold scale
  rw [value_div (value_toFloat32 v) (value_toFloat32 top) hpos]
  exact Value.rounded_of_nonneg (share_nonneg htop hv) ((share_le_one htop hv).trans_lt (by norm_num))

/-- A scaled sample lies between zero and one. -/
theorem scale_mem (htop : 1 ≤ top) (hv : v ≤ top) : 0 ≤ scale top v ∧ scale top v ≤ 1 := by
  rw [le_iff_of_number Matte.value_zero (value_scale htop hv),
    le_iff_of_number (value_scale htop hv) Matte.value_one]
  exact ⟨share_nonneg htop hv, share_le_one htop hv⟩

theorem scale_self (htop : 1 ≤ top) : scale top top = 1 := by
  have hall : ∀ u : UInt8, 1 ≤ u → scale u u = 1 := by decide +kernel
  exact hall top htop

theorem scale_zero (htop : 1 ≤ top) : scale top 0 = 0 := by
  have hall : ∀ u : UInt8, 1 ≤ u → scale u 0 = 0 := by decide +kernel
  exact hall top htop

end Scaling

/-! ## Standardising -/

theorem exists_value_mean (c : ℕ) : ∃ μ, value (mean c) = .number μ ∧ 0 ≤ μ ∧ μ ≤ 1 := by
  have hmem : mean c ∈ [0.485, 0.456, 0.406] := by
    rcases c with _ | _ | c <;> simp [mean]
  have hall : ∀ w ∈ [0.485, 0.456, (0.406 : Float32)], 0 ≤ w ∧ w ≤ 1 := by decide +kernel
  exact exists_value_of_le Matte.value_zero Matte.value_one (hall _ hmem).1 (hall _ hmem).2

theorem value_eighth : value 0.125 = .number (1 / 8) := by
  have hquot : (0.125 : Float32) = UInt8.toFloat32 1 / UInt8.toFloat32 8 := by decide +kernel
  have hshort : IsShort (1 / 8) := ⟨1, -3, by norm_num, by norm_num, by norm_num⟩
  have hsingle : IsSingle (1 / 8) := ⟨hshort, by norm_num⟩
  rw [hquot, value_div (value_toFloat32 1) (value_toFloat32 8) (by decide)]
  exact hsingle.rounded_eq

/-- The deviations are not small, so that what is divided by one does not become large. -/
theorem exists_value_deviation (c : ℕ) :
    ∃ σ, value (deviation c) = .number σ ∧ 1 / 8 ≤ σ ∧ σ ≤ 1 := by
  have hmem : deviation c ∈ [0.229, 0.224, 0.225] := by
    rcases c with _ | _ | c <;> simp [deviation]
  have hall : ∀ w ∈ [0.229, 0.224, (0.225 : Float32)], 0.125 ≤ w ∧ w ≤ 1 := by decide +kernel
  exact exists_value_of_le value_eighth Matte.value_one (hall _ hmem).1 (hall _ hmem).2

theorem deviation_pos (c : ℕ) : 0 < deviation c := by
  obtain ⟨σ, hσ, hlow, -⟩ := exists_value_deviation c
  rw [lt_iff_of_number Matte.value_zero hσ]
  exact lt_of_lt_of_le (by norm_num) hlow

/-- **What a standardised sample stands for**: the share of the brightest sample less the mean, by the
deviation, rounded after each step. -/
theorem value_standardise {top v : UInt8} {c : ℕ} {μ σ : ℚ} (htop : 1 ≤ top) (hv : v ≤ top)
    (hμ : value (mean c) = .number μ) (hσ : value (deviation c) = .number σ) :
    value (standardise top c v) = .number (nearest (nearest (share top v - μ) / σ)) := by
  obtain ⟨μ', hμ', hμ0, hμ1⟩ := exists_value_mean c
  obtain rfl : μ' = μ := Value.number.inj (hμ'.symm.trans hμ)
  obtain ⟨σ', hσ', hσ0, -⟩ := exists_value_deviation c
  obtain rfl : σ' = σ := Value.number.inj (hσ'.symm.trans hσ)
  have hpos : 0 < σ' := lt_of_lt_of_le (by norm_num) hσ0
  have hshort1 : IsShort 1 := by simpa using isShort_intCast (n := 1) (by norm_num)
  have hshort8 : IsShort 8 := by simpa using isShort_intCast (n := 8) (by norm_num)
  have hdiff : |nearest (share top v - μ')| ≤ 1 := by
    refine abs_nearest_le_of_isShort hshort1 (abs_le.2 ⟨?_, ?_⟩)
    · linarith [share_nonneg htop hv]
    · linarith [share_le_one htop hv]
  have hquot : |nearest (nearest (share top v - μ') / σ')| ≤ 8 := by
    refine abs_nearest_le_of_isShort hshort8 ?_
    rw [abs_div, abs_of_pos hpos, div_le_iff₀ hpos]
    linarith
  have hsub : value (scale top v - mean c) = .number (nearest (share top v - μ')) := by
    rw [value_sub_of_number (value_scale htop hv) hμ]
    exact Value.rounded_eq_number (hdiff.trans_lt (by norm_num))
  show value ((scale top v - mean c) / deviation c) = _
  rw [value_div hsub hσ hpos.ne']
  exact Value.rounded_eq_number (hquot.trans_lt (by norm_num))

/-! ## The tensor of a picture -/

/-- How the samples of a picture are scaled: by the brightest of all pixels and channels, never by zero. -/
structure IsScale (r : Raster (Rgb UInt8)) (top : UInt8) : Prop where
  greatest : IsGreatest {v | v = 1 ∨ v ∈ samples r} top
  divisor : 0 < top.toFloat32
  unit : ∀ v ∈ samples r, 0 ≤ scale top v ∧ scale top v ≤ 1
  rounded : ∀ v ∈ samples r, value (scale top v) = .number (nearest (v.toNat / top.toNat))
  /-- The brightest sample becomes 1, -/
  bright : (∃ v ∈ samples r, v ≠ 0) → IsGreatest (samples r) top ∧ scale top top = 1
  /-- unless all is black and stays so. -/
  black : (∀ v ∈ samples r, v = 0) → top = 1 ∧ ∀ v ∈ samples r, scale top v = 0

theorem isScale_brightest (r : Raster (Rgb UInt8)) : IsScale r (brightest r) := by
  have hgreatest := isGreatest_brightest r
  have htop : 1 ≤ brightest r := hgreatest.2 (.inl rfl)
  have hle : ∀ v ∈ samples r, v ≤ brightest r := fun v hv => hgreatest.2 (.inr hv)
  refine ⟨hgreatest, toFloat32_pos htop, fun v hv => scale_mem htop (hle v hv),
    fun v hv => value_scale htop (hle v hv), ?_, fun hblack => ⟨?_, fun v hv => ?_⟩⟩
  · rintro ⟨v, hv, hne⟩
    refine ⟨⟨?_, hle⟩, scale_self htop⟩
    -- if it is the 1 that was put in, the sample that is not black is as bright
    rcases hgreatest.1 with hone | hmem
    · have : brightest r = v := le_antisymm (by rw [hone]; exact UInt8.pos_iff_ne_zero.2 hne) (hle v hv)
      rwa [this]
    · exact hmem
  · rcases hgreatest.1 with hone | hmem
    · exact hone
    · rw [hblack _ hmem] at htop
      exact absurd htop (by decide)
  · rw [hblack v hv]
    exact scale_zero htop

/-- What stands in the tensor of a square picture. -/
structure IsInput (r : Raster (Rgb UInt8)) (side : ℕ) (t : Tensor) : Prop where
  shape : t.shape = [1, 3, side, side]
  size : t.values.size = 3 * side * side
  /-- It can be written sample by sample, -/
  written : t = written r side
  /-- and then each place is written once. -/
  places : ((spots side).map fun s => Tensor.place t.shape s.index).Perm (List.range t.values.size)
  place : ∀ c y x, Tensor.place t.shape [0, c, y, x] = c * side * side + y * side + x
  entry : ∀ c < 3, ∀ y < side, ∀ x < side, ∃ q, r.get? x y = some q ∧
    t.values[c * side * side + y * side + x]? =
      some ((scale (brightest r) (channelOf q c) - mean c) / deviation c)
  divisor : ∀ c, 0 < deviation c
  rounded : ∀ c, ∃ μ σ, value (mean c) = .number μ ∧ value (deviation c) = .number σ ∧ 0 < σ ∧
    ∀ v ∈ samples r, value ((scale (brightest r) v - mean c) / deviation c) =
      .number (nearest (nearest (nearest (v.toNat / (brightest r).toNat) - μ) / σ))

theorem isInput_tensorOf {r : Raster (Rgb UInt8)} {side : ℕ} (hwidth : r.width = side)
    (hheight : r.height = side) : IsInput r side (tensorOf r side) := by
  have hgreatest := isGreatest_brightest r
  have hsize : (tensorOf r side).values.size = volume [1, 3, side, side] := (tensorOf r side).size_values
  have hplace : ∀ c y x, Tensor.place [1, 3, side, side] [0, c, y, x] = c * side * side + y * side + x :=
    fun c y x => place_index side ⟨c, y, x⟩
  refine ⟨rfl, hsize.trans (volume_input side), (written_eq_tensorOf r side).symm, ?_, hplace, ?_,
    deviation_pos, ?_⟩
  · rw [hsize]
    exact perm_places side
  · intro c hc y hy x hx
    obtain ⟨q, hq⟩ := Option.isSome_iff_exists.1 (Raster.isSome_get?.2 ⟨hwidth ▸ hx, hheight ▸ hy⟩)
    have hentry := getElem?_tensorOf (r := r) (mem_spots (s := ⟨c, y, x⟩).2 ⟨hc, hy, hx⟩)
    refine ⟨q, hq, ?_⟩
    rw [place_index, Spot.number, Raster.getD, hq] at hentry
    exact hentry
  · intro c
    obtain ⟨μ, hμ, -⟩ := exists_value_mean c
    obtain ⟨σ, hσ, hlow, -⟩ := exists_value_deviation c
    refine ⟨μ, σ, hμ, hσ, lt_of_lt_of_le (by norm_num) hlow, fun v hv => ?_⟩
    exact value_standardise (hgreatest.2 (.inl rfl)) (hgreatest.2 (.inr hv)) hμ hσ

/-- **A network gets a picture standardised.** The picture is brought to the size that it asks for. Of its
tensor each number is written once: it is a sample scaled by the brightest one of all, less the mean of its
channel, by its deviation. No divisor is zero, and all that is scaled is between zero and one. -/
theorem inputTensor_standardises (p : Picture) (side : ℕ) :
    let r := p.toRgb8.resizeRgb side side
    (r.width = side ∧ r.height = side) ∧ IsScale r (brightest r) ∧ IsInput r side (inputTensor p side) := by
  intro r
  exact ⟨⟨rfl, rfl⟩, isScale_brightest r, isInput_tensorOf rfl rfl⟩

theorem inputTensor_standardises_square :
    let r : Raster (Rgb UInt8) := ⟨2, 2, #[⟨10, 0, 0⟩, ⟨0, 20, 0⟩, ⟨0, 0, 40⟩, ⟨5, 5, 5⟩], rfl⟩
    brightest (r.resizeRgb 2 2) = 40 ∧ scale 40 40 = 1 ∧
      (inputTensor (.rgb8 r) 2).values[10]? = some ((scale 40 40 - mean 2) / deviation 2) := by
  intro r
  have hsame : Picture.toRgb8 (.rgb8 r) = r := by decide +kernel
  have hbright : brightest (r.resizeRgb 2 2) = 40 := by decide +kernel
  obtain ⟨-, hscale, hinput⟩ := inputTensor_standardises (.rgb8 r) 2
  rw [hsame] at hscale hinput
  obtain ⟨q, hq, hentry⟩ := hinput.entry 2 (by decide) 1 (by decide) 0 (by decide)
  have hblue : (r.resizeRgb 2 2).get? 0 1 = some ⟨0, 0, 40⟩ := by decide +kernel
  obtain rfl : (⟨0, 0, 40⟩ : Rgb UInt8) = q := Option.some_inj.1 (hblue.symm.trans hq)
  have hbrightest := hscale.bright ⟨40, ⟨0, 1, _, hblue, 2, by decide, rfl⟩, by decide⟩
  rw [hbright] at hbrightest hentry
  exact ⟨hbright, hbrightest.2, hentry⟩

end Model

end Cutout
