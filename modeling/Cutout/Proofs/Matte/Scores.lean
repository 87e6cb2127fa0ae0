import Cutout.Matte.Scores
import Cutout.Proofs.Single.Order

/-!
# Mattes from scores

The bounds of a list of scores stand for its smallest and its largest number (`position_foldl_eq`), unless
there is none. If their difference is a number and large enough, the value of a score is the whole part of
`spread`, which is monotone and goes from 0 to 255 (`toNat_level`); otherwise every value is 0
(`level_of_isFlat`). All this depends on what the scores stand for, and on nothing else of them.
-/

namespace Cutout.Matte

open Cutout.Single

/-! ## Bounds -/

/-- One of the scores that is a number, and below all others that are. -/
def IsSmallest (lo : Float32) (scores : List Float32) : Prop :=
  lo ∈ scores ∧ lo.isNaN = false ∧ ∀ v ∈ scores, v.isNaN = false → lo ≤ v

/-- One of the scores that is a number, and above all others that are. -/
def IsLargest (hi : Float32) (scores : List Float32) : Prop :=
  hi ∈ scores ∧ hi.isNaN = false ∧ ∀ v ∈ scores, v.isNaN = false → v ≤ hi

theorem isNaN_eq_false_iff {v : Float32} : v.isNaN = false ↔ value v ≠ .nan := by
  rw [← Bool.not_eq_true, isNaN_iff]

section Folds

variable {L : Type} [LinearOrder L] {f : Float32 → L} {pick : Float32 → Float32 → Float32}

/-- A choice keeps what it has unless the other is a number with a smaller key. -/
def Picks (f : Float32 → L) (pick : Float32 → Float32 → Float32) : Prop :=
  ∀ a v, value a ≠ .nan →
    (pick a v = v ∧ value v ≠ .nan ∧ f v < f a) ∨ (pick a v = a ∧ (value v ≠ .nan → f a ≤ f v))

theorem foldl_least (hpick : Picks f pick) (scores : List Float32) {a : Float32} (ha : value a ≠ .nan) :
    value (scores.foldl pick a) ≠ .nan ∧ f (scores.foldl pick a) ≤ f a ∧
      (∀ v ∈ scores, value v ≠ .nan → f (scores.foldl pick a) ≤ f v) ∧
      (scores.foldl pick a = a ∨ scores.foldl pick a ∈ scores) := by
  induction scores generalizing a with
  | nil => exact ⟨ha, le_rfl, nofun, .inl rfl⟩
  | cons v scores ih =>
    rw [List.foldl_cons]
    rcases hpick a v ha with ⟨hv, hnan, hlt⟩ | ⟨ha', hle⟩
    · rw [hv]
      obtain ⟨h1, h2, h3, h4⟩ := ih hnan
      refine ⟨h1, h2.trans hlt.le, ?_, ?_⟩
      · exact List.forall_mem_cons.2 ⟨fun _ => h2, h3⟩
      · rcases h4 with h | h
        · rw [h]
          exact .inr List.mem_cons_self
        · exact .inr (List.mem_cons_of_mem v h)
    · rw [ha']
      obtain ⟨h1, h2, h3, h4⟩ := ih ha
      refine ⟨h1, h2, ?_, h4.imp_right (List.mem_cons_of_mem v)⟩
      exact List.forall_mem_cons.2 ⟨fun hnan => h2.trans (hle hnan), h3⟩

/-- From a start that is above all, the fold finds the key of the least number. -/
theorem foldl_eq_least (hpick : Picks f pick) {scores : List Float32} {a e : Float32} (ha : value a ≠ .nan)
    (htop : ∀ v, f v ≤ f a) (hmem : e ∈ scores) (hnan : value e ≠ .nan)
    (hleast : ∀ v ∈ scores, value v ≠ .nan → f e ≤ f v) : f (scores.foldl pick a) = f e := by
  obtain ⟨h1, -, h3, h4⟩ := foldl_least hpick scores ha
  refine le_antisymm (h3 e hmem hnan) ?_
  rcases h4 with h | h
  · rw [h]
    exact htop e
  · exact hleast _ h h1

/-- If there is a number at all, there is one with the least key. -/
theorem exists_least (hpick : Picks f pick) {scores : List Float32} {a v : Float32} (ha : value a ≠ .nan)
    (htop : ∀ v, f v ≤ f a) (hmem : v ∈ scores) (hnan : value v ≠ .nan) :
    ∃ e ∈ scores, value e ≠ .nan ∧ ∀ u ∈ scores, value u ≠ .nan → f e ≤ f u := by
  obtain ⟨h1, -, h3, h4⟩ := foldl_least hpick scores ha
  rcases h4 with h | h
  · -- nothing is below the start, so that any number will do
    refine ⟨v, hmem, hnan, fun u hu hunan => ?_⟩
    have := h3 u hu hunan
    rw [h] at this
    exact (htop v).trans this
  · exact ⟨_, h, h1, h3⟩

end Folds

theorem picks_lesser : Picks (fun v => (value v).position) lesser := by
  intro a v ha
  unfold lesser
  split
  · next h => exact .inl ⟨rfl, (lt_iff.1 h).1, (lt_iff.1 h).2.2⟩
  · next h => exact .inr ⟨rfl, fun hv => not_lt.1 fun hlt => h (lt_iff.2 ⟨hv, ha, hlt⟩)⟩

theorem picks_greater : Picks (fun v => OrderDual.toDual (value v).position) greater := by
  intro a v ha
  unfold greater
  split
  · next h => exact .inl ⟨rfl, (lt_iff.1 h).2.1, (lt_iff.1 h).2.2⟩
  · next h => exact .inr ⟨rfl, fun hv => not_lt.1 fun hlt => h (lt_iff.2 ⟨ha, hv, hlt⟩)⟩

theorem bounds_eq (scores : List Float32) :
    bounds scores = (scores.foldl lesser top, scores.foldl greater bottom) := by
  unfold bounds
  generalize top = a
  generalize bottom = b
  induction scores generalizing a b with
  | nil => rfl
  | cons v scores ih => exact ih _ _

theorem value_top : value top = .infinite .positive := by
  show Value.packed (.unpack Float.Model.Format.binary32 0x7F800000#32) = _
  exact packed_infinity .positive

theorem value_bottom : value bottom = .infinite .negative := by
  show Value.packed (.unpack Float.Model.Format.binary32 0xFF800000#32) = _
  exact packed_infinity .negative

theorem position_le_top (x : Value) : x.position ≤ (value top).position := by
  rw [value_top]
  cases x with
  | nan => exact bot_le
  | infinite s => cases s <;> exact le_top
  | number q => exact le_top

theorem bottom_le_position (x : Value) : (value bottom).position ≤ x.position := by
  rw [value_bottom]
  exact bot_le

theorem top_ne_nan : value top ≠ .nan := by
  rw [value_top]
  exact nofun

theorem bottom_ne_nan : value bottom ≠ .nan := by
  rw [value_bottom]
  exact nofun

theorem isSmallest_iff {lo : Float32} {scores : List Float32} :
    IsSmallest lo scores ↔ lo ∈ scores ∧ value lo ≠ .nan ∧
      ∀ v ∈ scores, value v ≠ .nan → (value lo).position ≤ (value v).position := by
  unfold IsSmallest
  simp only [isNaN_eq_false_iff, le_iff]
  exact and_congr_right fun _ => and_congr_right fun hlo => forall₂_congr fun v _ =>
    ⟨fun h hv => (h hv).2.2, fun h hv => ⟨hlo, hv, h hv⟩⟩

theorem isLargest_iff {hi : Float32} {scores : List Float32} :
    IsLargest hi scores ↔ hi ∈ scores ∧ value hi ≠ .nan ∧
      ∀ v ∈ scores, value v ≠ .nan → (value v).position ≤ (value hi).position := by
  unfold IsLargest
  simp only [isNaN_eq_false_iff, le_iff]
  exact and_congr_right fun _ => and_congr_right fun hhi => forall₂_congr fun v _ =>
    ⟨fun h hv => (h hv).2.2, fun h hv => ⟨hv, hhi, h hv⟩⟩

/-- **The bounds of scores stand for their smallest and their largest number.** -/
theorem value_bounds {lo hi : Float32} {scores : List Float32} (hlo : IsSmallest lo scores)
    (hhi : IsLargest hi scores) :
    value (bounds scores).1 = value lo ∧ value (bounds scores).2 = value hi := by
  obtain ⟨hlomem, hlonan, hloleast⟩ := isSmallest_iff.1 hlo
  obtain ⟨himem, hinan, higreatest⟩ := isLargest_iff.1 hhi
  rw [bounds_eq]
  constructor
  · refine position_injective (foldl_least picks_lesser scores top_ne_nan).1 hlonan ?_
    exact foldl_eq_least picks_lesser top_ne_nan (fun v => position_le_top _) hlomem hlonan hloleast
  · refine position_injective (foldl_least picks_greater scores bottom_ne_nan).1 hinan ?_
    exact foldl_eq_least picks_greater bottom_ne_nan (fun v => bottom_le_position _) himem hinan higreatest

/-- Of scores that are all no numbers, the bounds are in the wrong order. -/
theorem bounds_of_nan {scores : List Float32} (h : ∀ v ∈ scores, value v = .nan) :
    bounds scores = (top, bottom) := by
  rw [bounds_eq]
  -- the folds end where they start, or at one of the scores
  obtain ⟨hlonan, -, -, hlo⟩ := foldl_least picks_lesser scores top_ne_nan
  obtain ⟨hinan, -, -, hhi⟩ := foldl_least picks_greater scores bottom_ne_nan
  rw [hlo.resolve_right fun hmem => hlonan (h _ hmem), hhi.resolve_right fun hmem => hinan (h _ hmem)]

/-- Scores with a number among them have a smallest and a largest one. -/
theorem exists_bounds {scores : List Float32} {v : Float32} (hmem : v ∈ scores) (hv : value v ≠ .nan) :
    ∃ lo hi, IsSmallest lo scores ∧ IsLargest hi scores := by
  obtain ⟨lo, hlo⟩ := exists_least picks_lesser top_ne_nan (fun v => position_le_top _) hmem hv
  obtain ⟨hi, hhi⟩ := exists_least picks_greater bottom_ne_nan (fun v => bottom_le_position _) hmem hv
  exact ⟨lo, hi, isSmallest_iff.2 hlo, isLargest_iff.2 hhi⟩

/-! ## Levels -/

/-- Two bounds without a range between them: their difference is not a finite number, or too small. -/
def IsFlat (lo hi : Float32) : Prop :=
  ¬((hi - lo).isFinite = true ∧ grain < hi - lo)

theorem isFlat_congr {lo hi lo' hi' : Float32} (hlo : value lo = value lo') (hhi : value hi = value hi') :
    IsFlat lo hi ↔ IsFlat lo' hi' := by
  have hsub : value (hi - lo) = value (hi' - lo') := by rw [value_sub, value_sub, hlo, hhi]
  unfold IsFlat
  rw [isFinite_iff, isFinite_iff, lt_iff, lt_iff, hsub]

theorem clamp_eq {x : Float32} (hlow : ¬x < 0) (hhigh : ¬255 < x) : clamp 0 255 x = x := by
  unfold clamp
  rw [if_neg hlow]
  exact if_neg hhigh

theorem value_zero : value 0 = .number 0 := by
  have : (0 : Float32) = UInt8.toFloat32 0 := by decide +kernel
  rw [this, value_toFloat32]
  rfl

theorem value_one : value 1 = .number 1 := by
  have : (1 : Float32) = UInt8.toFloat32 1 := by decide +kernel
  rw [this, value_toFloat32]
  rfl

theorem value_255 : value 255 = .number 255 := by
  have : (255 : Float32) = UInt8.toFloat32 255 := by decide +kernel
  rw [this, value_toFloat32]
  rfl

/-- What is cut off at the ends is not a number, or is a number between them. -/
theorem toUInt8_clamp_of_nan {x : Float32} (h : value x = .nan) : (clamp 0 255 x).toUInt8 = 0 := by
  rw [clamp_eq, toUInt8_of_nan h]
  · exact fun hlt => (lt_iff.1 hlt).1 h
  · exact fun hlt => (lt_iff.1 hlt).2.1 h

theorem toNat_toUInt8_clamp {x : Float32} {q : ℚ} (h : value x = .number q) (h0 : 0 ≤ q) (h255 : q ≤ 255) :
    (clamp 0 255 x).toUInt8.toNat = ⌊q⌋.toNat := by
  have hfloor : ⌊q⌋ ≤ 255 := by
    have := Int.floor_mono h255
    simpa using this
  rw [clamp_eq, toNat_toUInt8 h]
  · omega
  · rw [lt_iff_of_number h value_zero]
    exact h0.not_gt
  · rw [lt_iff_of_number value_255 h]
    exact h255.not_gt

/-- Without a range every score has the value 0. -/
theorem level_of_isFlat {lo hi : Float32} (h : IsFlat lo hi) (v : Float32) : level lo hi v = 0 := by
  unfold level
  split
  · next hgrain =>
    -- what is above the grain and is no finite number is infinite
    have hrange : ∃ s, value (hi - lo) = .infinite s := by
      cases hd : value (hi - lo) with
      | nan => exact absurd hd (lt_iff.1 hgrain).2.1
      | infinite s => exact ⟨s, rfl⟩
      | number d => exact absurd ⟨isFinite_iff.2 ⟨d, hd⟩, hgrain⟩ h
    obtain ⟨s, hs⟩ := hrange
    rcases value_div_of_infinite (v - lo) hs with hzero | hnan
    · have hproduct : value ((v - lo) / (hi - lo) * 255) = .number 0 := by
        rw [value_mul hzero value_255, zero_mul, isSingle_zero.rounded_eq]
      refine UInt8.toNat_inj.1 ?_
      rw [toNat_toUInt8_clamp hproduct le_rfl (by norm_num)]
      rfl
    · exact toUInt8_clamp_of_nan (value_mul_of_nan hnan 255)
  · rfl

/-- A score that is not a number has the value 0. -/
theorem level_of_nan (lo hi : Float32) {v : Float32} (h : value v = .nan) : level lo hi v = 0 := by
  unfold level
  split
  · have hdiff : value (v - lo) = .nan := by
      rw [value_sub, h]
      cases value lo <;> rfl
    exact toUInt8_clamp_of_nan (value_mul_of_nan (value_div_of_nan hdiff _) 255)
  · rfl

/-- Where a number stands between two others, on a scale from 0 to 255. -/
def spread (l h q : ℚ) : ℚ :=
  nearest (nearest (nearest (q - l) / nearest (h - l)) * 255)

variable {l h : ℚ}

theorem spread_mono (hlt : 0 < nearest (h - l)) : Monotone (spread l h) := by
  intro p q hpq
  refine nearest_mono (mul_le_mul_of_nonneg_right (nearest_mono ?_) (by norm_num))
  exact div_le_div_of_nonneg_right (nearest_mono (sub_le_sub_right hpq l)) hlt.le

theorem spread_left (l h : ℚ) : spread l h l = 0 := by
  rw [spread, sub_self, nearest_zero, zero_div, nearest_zero, zero_mul, nearest_zero]

theorem spread_right (hlt : 0 < nearest (h - l)) : spread l h h = 255 := by
  have hshort : IsShort 255 := by simpa using isShort_intCast (n := 255) (by norm_num)
  rw [spread, div_self hlt.ne', nearest_one, one_mul, nearest_of_isShort hshort]

theorem grain_pos : ∃ g, value grain = .number g ∧ 0 < g := by
  obtain ⟨g, hg⟩ := isFinite_iff.1 (show grain.isFinite = true by decide +kernel)
  have hpos : (0 : Float32) < grain := by decide +kernel
  exact ⟨g, hg, (lt_iff_of_number value_zero hg).1 hpos⟩

/-- A range that is not flat lies between two numbers. -/
theorem exists_of_not_isFlat {lo hi : Float32} (hflat : ¬IsFlat lo hi) :
    ∃ l h, value lo = .number l ∧ value hi = .number h ∧ l ≤ h ∧ 0 < nearest (h - l) ∧
      nearest (h - l) < 2 ^ 128 ∧ value (hi - lo) = .number (nearest (h - l)) := by
  obtain ⟨hfinite, hgrain⟩ := not_not.1 hflat
  obtain ⟨d, hd⟩ := isFinite_iff.1 hfinite
  obtain ⟨h, l, hh, hl, hlt, rfl⟩ := Value.sub_eq_number ((value_sub hi lo).symm.trans hd)
  obtain ⟨g, hg, hpos⟩ := grain_pos
  rw [lt_iff_of_number hg hd] at hgrain
  have hrange : 0 < nearest (h - l) := hpos.trans hgrain
  have hlh : l ≤ h := le_of_lt (sub_pos.1 (not_le.1 fun hle => (nearest_nonpos hle).not_gt hrange))
  exact ⟨l, h, hl, hh, hlh, hrange, (abs_lt.1 hlt).2, hd⟩

/-- **The value of a score between two bounds** is the whole part of where it stands. -/
theorem toNat_level {lo hi v : Float32} {q : ℚ} (hflat : ¬IsFlat lo hi) (hl : value lo = .number l)
    (hh : value hi = .number h) (hq : value v = .number q) (hlq : l ≤ q) (hqh : q ≤ h) :
    (level lo hi v).toNat = ⌊spread l h q⌋.toNat := by
  obtain ⟨l', h', hl', hh', -, hpos, hlt, hrange⟩ := exists_of_not_isFlat hflat
  obtain rfl : l' = l := Value.number.inj (hl'.symm.trans hl)
  obtain rfl : h' = h := Value.number.inj (hh'.symm.trans hh)
  have hlow : 0 ≤ nearest (q - l') := nearest_nonneg (sub_nonneg.2 hlq)
  have hhigh : nearest (q - l') ≤ nearest (h' - l') := nearest_mono (sub_le_sub_right hqh l')
  -- each of the three results is a number, since it is not above one that is
  have hdiff : value (v - lo) = .number (nearest (q - l')) := by
    rw [value_sub_of_number hq hl]
    exact Value.rounded_of_nonneg hlow (hhigh.trans_lt hlt)
  have hquot0 : 0 ≤ nearest (nearest (q - l') / nearest (h' - l')) :=
    nearest_nonneg (div_nonneg hlow hpos.le)
  have hquot1 : nearest (nearest (q - l') / nearest (h' - l')) ≤ 1 :=
    (nearest_mono ((div_le_one hpos).2 hhigh)).trans_eq nearest_one
  have hquot : value ((v - lo) / (hi - lo)) =
      .number (nearest (nearest (q - l') / nearest (h' - l'))) := by
    rw [value_div hdiff hrange hpos.ne']
    exact Value.rounded_of_nonneg hquot0 (hquot1.trans_lt (by norm_num))
  have hspread0 : 0 ≤ spread l' h' q := by
    rw [← spread_left l' h']
    exact spread_mono hpos hlq
  have hspread255 : spread l' h' q ≤ 255 := by
    rw [← spread_right hpos]
    exact spread_mono hpos hqh
  have hproduct : value ((v - lo) / (hi - lo) * 255) = .number (spread l' h' q) := by
    rw [value_mul hquot value_255]
    exact Value.rounded_of_nonneg hspread0 (hspread255.trans_lt (by norm_num))
  unfold level
  rw [if_pos (not_not.1 hflat).2, toNat_toUInt8_clamp hproduct hspread0 hspread255]

/-! ## Mattes -/

section Scores

variable {scores : List Float32} {lo hi v : Float32} {width height : ℕ} {m : Matte}

/-- A score that is a number stands between the smallest and the largest of them. -/
theorem exists_of_mem (hlo : IsSmallest lo scores) (hhi : IsLargest hi scores) (hl : value lo = .number l)
    (hh : value hi = .number h) (hmem : v ∈ scores) (hv : value v ≠ .nan) :
    ∃ q, value v = .number q ∧ l ≤ q ∧ q ≤ h := by
  have hlow := (isSmallest_iff.1 hlo).2.2 v hmem hv
  have hhigh := (isLargest_iff.1 hhi).2.2 v hmem hv
  rw [hl] at hlow
  rw [hh] at hhigh
  exact Value.exists_number hv hlow hhigh

/-- The levels of scores depend on what their bounds stand for. -/
theorem level_congr {lo' hi' : Float32} (hlo : IsSmallest lo scores) (hhi : IsLargest hi scores)
    (hvlo : value lo' = value lo) (hvhi : value hi' = value hi) (hmem : v ∈ scores) :
    level lo' hi' v = level lo hi v := by
  have hflat := isFlat_congr hvlo hvhi
  by_cases hrange : IsFlat lo hi
  · rw [level_of_isFlat hrange, level_of_isFlat (hflat.2 hrange)]
  · by_cases hv : value v = .nan
    · rw [level_of_nan lo hi hv, level_of_nan lo' hi' hv]
    · obtain ⟨l, h, hl, hh, -⟩ := exists_of_not_isFlat hrange
      obtain ⟨q, hq, hlq, hqh⟩ := exists_of_mem hlo hhi hl hh hmem hv
      refine UInt8.toNat_inj.1 ?_
      rw [toNat_level hrange hl hh hq hlq hqh,
        toNat_level (mt hflat.1 hrange) (hvlo.trans hl) (hvhi.trans hh) hq hlq hqh]

theorem level_bounds (hlo : IsSmallest lo scores) (hhi : IsLargest hi scores) (hmem : v ∈ scores) :
    level (bounds scores).1 (bounds scores).2 v = level lo hi v :=
  level_congr hlo hhi (value_bounds hlo hhi).1 (value_bounds hlo hhi).2 hmem

theorem level_of_eq_left (hv : value v = value lo) : level lo hi v = 0 := by
  by_cases hrange : IsFlat lo hi
  · exact level_of_isFlat hrange v
  · obtain ⟨l, h, hl, hh, hlh, -⟩ := exists_of_not_isFlat hrange
    refine UInt8.toNat_inj.1 ?_
    rw [toNat_level hrange hl hh (hv.trans hl) le_rfl hlh, spread_left, Int.floor_zero]
    rfl

theorem level_of_eq_right (hrange : ¬IsFlat lo hi) (hv : value v = value hi) : level lo hi v = 255 := by
  obtain ⟨l, h, hl, hh, hlh, hpos, -⟩ := exists_of_not_isFlat hrange
  refine UInt8.toNat_inj.1 ?_
  rw [toNat_level hrange hl hh (hv.trans hh) hlh le_rfl, spread_right hpos, Int.floor_ofNat]
  rfl

theorem level_le {u : Float32} (hlo : IsSmallest lo scores) (hhi : IsLargest hi scores) (hu : u ∈ scores)
    (hv : v ∈ scores) (huv : u ≤ v) : level lo hi u ≤ level lo hi v := by
  obtain ⟨hunan, hvnan, hle⟩ := le_iff.1 huv
  by_cases hrange : IsFlat lo hi
  · exact UInt8.le_of_eq ((level_of_isFlat hrange u).trans (level_of_isFlat hrange v).symm)
  · obtain ⟨l, h, hl, hh, -, hpos, -⟩ := exists_of_not_isFlat hrange
    obtain ⟨p, hp, hlp, hph⟩ := exists_of_mem hlo hhi hl hh hu hunan
    obtain ⟨q, hq, hlq, hqh⟩ := exists_of_mem hlo hhi hl hh hv hvnan
    rw [hp, hq, position_number_le] at hle
    rw [UInt8.le_iff_toNat_le, toNat_level hrange hl hh hp hlp hph, toNat_level hrange hl hh hq hlq hqh]
    exact Int.toNat_le_toNat (Int.floor_mono (spread_mono hpos hle))

theorem ofScores_eq (scores : List Float32) (width height : ℕ) :
    ofScores scores width height = Raster.ofArray? width height
      (scores.toArray.map (level (bounds scores).1 (bounds scores).2)) :=
  rfl

theorem ofScores_eq_none_iff : ofScores scores width height = none ↔ scores.length ≠ width * height := by
  rw [ofScores_eq, Raster.ofArray?]
  split
  · next h => exact iff_of_false (Option.some_ne_none _) (not_not.2 (by simpa using h))
  · next h => exact iff_of_true rfl (by simpa using h)

theorem of_ofScores (h : ofScores scores width height = some m) :
    (m.width = width ∧ m.height = height) ∧
      m.pixels = scores.toArray.map (level (bounds scores).1 (bounds scores).2) := by
  rw [ofScores_eq, Raster.ofArray?] at h
  split at h
  · cases h
    exact ⟨⟨rfl, rfl⟩, rfl⟩
  · cases h

theorem get?_pixels (h : ofScores scores width height = some m) {i : ℕ} (hv : scores[i]? = some v) :
    m.pixels[i]? = some (level (bounds scores).1 (bounds scores).2 v) := by
  rw [(of_ofScores h).2]
  simp [hv]

theorem eq_fill_of_level (h : ofScores scores width height = some m)
    (hlevel : ∀ v ∈ scores, level (bounds scores).1 (bounds scores).2 v = 0) :
    m = Raster.fill width height 0 := by
  obtain ⟨hsize, hpixels⟩ := of_ofScores h
  obtain ⟨w, k, pixels, hcount⟩ := m
  obtain ⟨rfl, rfl⟩ : w = width ∧ k = height := hsize
  have hzero : pixels = Array.replicate (w * k) 0 := by
    rw [← hcount, show pixels = _ from hpixels, Array.size_map]
    exact Array.map_eq_replicate_iff.2 fun v hv => hlevel v (by simpa using hv)
  subst hzero
  rfl

/-- Replacing an element changes nothing that does not tell the two apart. -/
theorem map_set_of_eq {α β : Type} {f : α → β} {l : List α} {i : ℕ} {a b : α} (hb : l[i]? = some b)
    (h : f a = f b) : (l.set i a).map f = l.map f := by
  obtain ⟨hi, rfl⟩ := List.getElem?_eq_some_iff.1 hb
  have hlength : i < (l.map f).length := by rwa [List.length_map]
  have hmap : f a = (l.map f)[i] := h.trans (List.getElem_map f).symm
  rw [List.map_set, hmap, List.set_getElem_self]

/-- A missing number may be replaced by the smallest. The bounds stay the same, and both get the value 0. -/
theorem ofScores_set {i : ℕ} (hlo : IsSmallest lo scores) (hhi : IsLargest hi scores)
    (hv : scores[i]? = some v) (hnan : v.isNaN = true) :
    ofScores (scores.set i lo) width height = ofScores scores width height := by
  -- no number is lost, and none is new
  have hkept : ∀ u ∈ scores, u.isNaN = false → u ∈ scores.set i lo := by
    intro u hu hunan
    obtain ⟨j, hj⟩ := List.mem_iff_getElem?.1 hu
    have hne : i ≠ j := by
      rintro rfl
      rw [hv, Option.some_inj] at hj
      rw [hj, hunan] at hnan
      cases hnan
    exact List.mem_iff_getElem?.2 ⟨j, by rwa [List.getElem?_set_ne hne]⟩
  have hold : ∀ {u}, u ∈ scores.set i lo → u ∈ scores := fun hu =>
    (List.mem_or_eq_of_mem_set hu).elim id fun heq => heq ▸ hlo.1
  have hlo' : IsSmallest lo (scores.set i lo) :=
    ⟨hkept lo hlo.1 hlo.2.1, hlo.2.1, fun u hu => hlo.2.2 u (hold hu)⟩
  have hhi' : IsLargest hi (scores.set i lo) :=
    ⟨hkept hi hhi.1 hhi.2.1, hhi.2.1, fun u hu => hhi.2.2 u (hold hu)⟩
  have hlevels : (scores.set i lo).map (level (bounds (scores.set i lo)).1 (bounds (scores.set i lo)).2) =
      scores.map (level (bounds scores).1 (bounds scores).2) := by
    have hsame : level lo hi lo = level lo hi v := by
      rw [level_of_eq_left rfl, level_of_nan lo hi (isNaN_iff.1 hnan)]
    rw [List.map_congr_left fun u hu => level_bounds hlo' hhi' hu,
      List.map_congr_left fun u hu => level_bounds hlo hhi hu]
    exact map_set_of_eq hv hsame
  rw [ofScores_eq, ofScores_eq, List.map_toArray, List.map_toArray, hlevels]

end Scores

/-- How a matte goes with the scores between their smallest and their largest. -/
structure Spreads (lo hi : Float32) (scores : List Float32) (m : Matte) : Prop where
  smallest : ∀ (i : ℕ) (v : Float32), scores[i]? = some v → (v == lo) = true → m.pixels[i]? = some 0
  largest : ∀ (i : ℕ) (v : Float32), scores[i]? = some v → (v == hi) = true → m.pixels[i]? = some 255
  ordered : ∀ (i j : ℕ) (u v : Float32), scores[i]? = some u → scores[j]? = some v → u ≤ v →
    ∃ a b, m.pixels[i]? = some a ∧ m.pixels[j]? = some b ∧ a ≤ b

section Spreads

variable {scores : List Float32} {lo hi : Float32} {width height : ℕ} {m : Matte}

theorem spreads_of_not_isFlat (h : ofScores scores width height = some m) (hlo : IsSmallest lo scores)
    (hhi : IsLargest hi scores) (hrange : ¬IsFlat lo hi) : Spreads lo hi scores m := by
  have hpixel : ∀ {i : ℕ} {v : Float32}, scores[i]? = some v → m.pixels[i]? = some (level lo hi v) := by
    intro i v hv
    rw [get?_pixels h hv, level_bounds hlo hhi (List.mem_of_getElem? hv)]
  have hsame : ∀ {u v : Float32}, (u == v) = true → value u = value v := by
    intro u v huv
    obtain ⟨hu, hv, hposition⟩ := beq_iff.1 huv
    exact position_injective hu hv hposition
  refine ⟨fun i v hv heq => ?_, fun i v hv heq => ?_, fun i j u v hu hv hle => ?_⟩
  · rw [hpixel hv, level_of_eq_left (hsame heq)]
  · rw [hpixel hv, level_of_eq_right hrange (hsame heq)]
  · exact ⟨_, _, hpixel hu, hpixel hv,
      level_le hlo hhi (List.mem_of_getElem? hu) (List.mem_of_getElem? hv) hle⟩

theorem isFlat_of_isInf {v : Float32} (hlo : IsSmallest lo scores) (hhi : IsLargest hi scores)
    (hmem : v ∈ scores) (hv : v.isInf = true) : IsFlat lo hi := by
  by_contra hrange
  obtain ⟨s, hs⟩ := isInf_iff.1 hv
  obtain ⟨l, h, hl, hh, -⟩ := exists_of_not_isFlat hrange
  obtain ⟨q, hq, -⟩ := exists_of_mem hlo hhi hl hh hmem (by rw [hs]; exact nofun)
  rw [hs] at hq
  cases hq

theorem isFlat_of_nan (h : ∀ v ∈ scores, value v = .nan) : IsFlat (bounds scores).1 (bounds scores).2 := by
  rw [bounds_of_nan h]
  rintro ⟨-, hgrain⟩
  exact absurd hgrain (by decide +kernel)

/-- **A matte spreads the range of the scores over the range of a matte.** There is one exactly if there is
one score for each pixel. If the smallest and the largest of the numbers are finitely far apart, and more
than a grain, the one becomes 0 and the other 255, and what is between them keeps its order; otherwise all
is 0, as it is if a score is infinite or none is a number. What is not a number becomes 0, as if it were the
smallest. -/
theorem ofScores_spreads (scores : List Float32) (width height : ℕ) :
    (ofScores scores width height = none ↔ scores.length ≠ width * height) ∧
    ∀ m, ofScores scores width height = some m →
      (m.width = width ∧ m.height = height) ∧
      ((∃ v ∈ scores, v.isNaN = false) → ∃ lo hi, IsSmallest lo scores ∧ IsLargest hi scores) ∧
      (∀ lo hi, IsSmallest lo scores → IsLargest hi scores →
        ((hi - lo).isFinite = true → grain < hi - lo → Spreads lo hi scores m) ∧
        (¬((hi - lo).isFinite = true ∧ grain < hi - lo) → m = Raster.fill width height 0) ∧
        ∀ (i : ℕ) (v : Float32), scores[i]? = some v → v.isNaN = true →
          ofScores (scores.set i lo) width height = some m) ∧
      (∀ (i : ℕ) (v : Float32), scores[i]? = some v → v.isNaN = true → m.pixels[i]? = some 0) ∧
      ((∃ v ∈ scores, v.isInf = true) → m = Raster.fill width height 0) ∧
      ((∀ v ∈ scores, v.isNaN = true) → m = Raster.fill width height 0) := by
  refine ⟨ofScores_eq_none_iff, fun m hm => ⟨(of_ofScores hm).1, ?_, ?_, ?_, ?_, ?_⟩⟩
  · rintro ⟨v, hmem, hv⟩
    exact exists_bounds hmem (isNaN_eq_false_iff.1 hv)
  · refine fun lo hi hlo hhi => ⟨fun hfinite hgrain => ?_, fun hflat => ?_, fun i v hv hnan => ?_⟩
    · exact spreads_of_not_isFlat hm hlo hhi (not_not.2 ⟨hfinite, hgrain⟩)
    · refine eq_fill_of_level hm fun v hv => ?_
      rw [level_bounds hlo hhi hv]
      exact level_of_isFlat hflat v
    · rw [ofScores_set hlo hhi hv hnan, hm]
  · intro i v hv hnan
    rw [get?_pixels hm hv, level_of_nan _ _ (isNaN_iff.1 hnan)]
  · rintro ⟨v, hmem, hinf⟩
    obtain ⟨s, hs⟩ := isInf_iff.1 hinf
    obtain ⟨lo, hi, hlo, hhi⟩ := exists_bounds hmem (by rw [hs]; exact nofun)
    refine eq_fill_of_level hm fun u hu => ?_
    rw [level_bounds hlo hhi hu]
    exact level_of_isFlat (isFlat_of_isInf hlo hhi hmem hinf) u
  · intro hnan
    have hflat := isFlat_of_nan fun v hv => isNaN_iff.1 (hnan v hv)
    exact eq_fill_of_level hm fun v _ => level_of_isFlat hflat v

theorem ofScores_spreads_square :
    let nan := Float32.ofBits 0x7FC00000
    ∃ m, ofScores [1, nan, 3, 2] 2 2 = some m ∧ m.pixels[0]? = some 0 ∧ m.pixels[1]? = some 0 ∧
      m.pixels[2]? = some 255 ∧ ofScores [1, 1, 3, 2] 2 2 = some m := by
  intro nan
  obtain ⟨hnone, hsome⟩ := ofScores_spreads [1, nan, 3, 2] 2 2
  obtain ⟨m, hm⟩ := Option.ne_none_iff_exists'.1 (mt hnone.1 (by decide))
  obtain ⟨-, -, hrange, hnan, -⟩ := hsome m hm
  have hlo : IsSmallest 1 [1, nan, 3, 2] := ⟨by simp, by decide +kernel, by decide +kernel⟩
  have hhi : IsLargest 3 [1, nan, 3, 2] := ⟨by simp, by decide +kernel, by decide +kernel⟩
  obtain ⟨hspreads, -, hset⟩ := hrange 1 3 hlo hhi
  have hspread := hspreads (by decide +kernel) (by decide +kernel)
  exact ⟨m, hm, hspread.smallest 0 1 rfl (by decide +kernel), hnan 1 nan rfl (by decide +kernel),
    hspread.largest 2 3 rfl (by decide +kernel), hset 1 nan rfl (by decide +kernel)⟩

end Spreads

end Cutout.Matte
