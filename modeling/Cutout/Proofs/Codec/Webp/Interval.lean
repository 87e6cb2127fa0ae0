import Cutout.Codec.Webp.Lossy.Coder
import Mathlib.Tactic.Ring

/-!
# Intervals of decisions

Decisions divide an interval, and what has been decided is the part that remains. The part is held
exactly here: its lower end has as many bits as there were doublings. Parts lie within each other
(`Interval.after_liesIn`), and each has eight bits (`Interval.IsFull`); the writer and the reader of
decisions are both compared with it.
-/

namespace Cutout.Webp.Lossy

/-! ## Dividing a range -/

/-- Both branches of a decision are possible. -/
def Decision.IsFair (d : Decision) : Prop :=
  d.first < 256

/-- The part of a range for the first branch of a decision. -/
def Decision.split (d : Decision) (range : Nat) : Nat :=
  1 + (range - 1) * d.first / 256

/-- The part of a range that a decision leaves. -/
def Decision.part (d : Decision) (range : Nat) : Nat :=
  if d.second then range - d.split range else d.split range

/-- Where the part begins that a decision leaves. -/
def Decision.offset (d : Decision) (range : Nat) : Nat :=
  if d.second then d.split range else 0

/-- How often a range has to be doubled until it has eight bits. -/
def doublings : (fuel range : Nat) → Nat
  | 0, _ => 0
  | fuel + 1, range => if range < 128 then doublings fuel (2 * range) + 1 else 0

theorem Decision.split_lt {d : Decision} (hd : d.IsFair) {range : Nat} (h : 2 ≤ range) :
    d.split range < range := by
  have hmul : (range - 1) * d.first < (range - 1) * 256 :=
    Nat.mul_lt_mul_of_pos_left hd (by omega)
  have hdiv : (range - 1) * d.first / 256 < range - 1 := by
    rw [Nat.div_lt_iff_lt_mul (by decide)]
    exact hmul
  unfold split
  omega

theorem Decision.split_pos (d : Decision) (range : Nat) : 0 < d.split range := by
  unfold split
  omega

theorem Decision.offset_add_part {d : Decision} (hd : d.IsFair) {range : Nat} (h : 2 ≤ range) :
    0 < d.part range ∧ d.offset range + d.part range ≤ range := by
  have hlt := d.split_lt hd h
  have hpos := d.split_pos range
  unfold part offset
  split <;> omega

/-- Seven doublings are enough for any range, and leave eight bits. -/
theorem doublings_spec {range : Nat} (hpos : 0 < range) (hlt : range < 256) :
    128 ≤ range * 2 ^ doublings 7 range ∧ range * 2 ^ doublings 7 range < 256 := by
  have hall : ∀ r < 256, 0 < r → 128 ≤ r * 2 ^ doublings 7 r ∧ r * 2 ^ doublings 7 r < 256 := by
    decide +kernel
  exact hall range hlt hpos

/-! ## Intervals -/

/-- The part that decisions leave of the whole: its lower end and its range after `scale` doublings. -/
structure Interval where
  low : Nat
  range : Nat
  scale : Nat

namespace Interval

/-- Nothing has been decided. -/
def whole : Interval :=
  ⟨0, 255, 0⟩

/-- The same interval, doubled some times. -/
def doubled (i : Interval) (n : Nat) : Interval :=
  ⟨i.low * 2 ^ n, i.range * 2 ^ n, i.scale + n⟩

/-- The part that a decision leaves, before it is doubled. -/
def branch (i : Interval) (d : Decision) : Interval :=
  ⟨i.low + d.offset i.range, d.part i.range, i.scale⟩

/-- The part that a decision leaves. -/
def narrow (i : Interval) (d : Decision) : Interval :=
  (i.branch d).doubled (doublings 7 (d.part i.range))

/-- The part that decisions leave. -/
def after (i : Interval) (ds : List Decision) : Interval :=
  ds.foldl narrow i

theorem after_append (i : Interval) (ds ds' : List Decision) :
    i.after (ds ++ ds') = (i.after ds).after ds' :=
  List.foldl_append

/-- The range has eight bits, and the interval lies within the whole. -/
structure IsFull (i : Interval) : Prop where
  low_le : 128 ≤ i.range
  le_high : i.range < 256
  inside : i.low + i.range ≤ 255 * 2 ^ i.scale

theorem isFull_whole : whole.IsFull :=
  ⟨by decide, by decide, by decide⟩

theorem doubled_doubled (i : Interval) (m n : Nat) : (i.doubled m).doubled n = i.doubled (n + m) := by
  have hpow : 2 ^ m * 2 ^ n = 2 ^ (n + m) := by rw [← Nat.pow_add, Nat.add_comm]
  have hscale : i.scale + m + n = i.scale + (n + m) := by omega
  unfold doubled
  simp only [Nat.mul_assoc, hpow, hscale]

@[simp] theorem doubled_zero (i : Interval) : i.doubled 0 = i := by
  simp [doubled]

/-! ## Parts within each other -/

/-- An interval lies within another one that was doubled `s` times less. -/
structure LiesIn (j i : Interval) (s : Nat) : Prop where
  scale : j.scale = i.scale + s
  low_le : i.low * 2 ^ s ≤ j.low
  le_high : j.low + j.range ≤ (i.low + i.range) * 2 ^ s

theorem LiesIn.refl (i : Interval) : LiesIn i i 0 :=
  ⟨rfl, by simp, by simp⟩

theorem LiesIn.trans {i j k : Interval} {s t : Nat} (h : LiesIn j i s) (h' : LiesIn k j t) :
    LiesIn k i (s + t) := by
  refine ⟨?_, ?_, ?_⟩
  · rw [h'.scale, h.scale, Nat.add_assoc]
  · calc i.low * 2 ^ (s + t) = i.low * 2 ^ s * 2 ^ t := by rw [Nat.pow_add, Nat.mul_assoc]
      _ ≤ j.low * 2 ^ t := Nat.mul_le_mul_right _ h.low_le
      _ ≤ k.low := h'.low_le
  · calc k.low + k.range ≤ (j.low + j.range) * 2 ^ t := h'.le_high
      _ ≤ (i.low + i.range) * 2 ^ s * 2 ^ t := Nat.mul_le_mul_right _ h.le_high
      _ = (i.low + i.range) * 2 ^ (s + t) := by rw [Nat.pow_add, Nat.mul_assoc]

theorem doubled_liesIn (i : Interval) (n : Nat) : LiesIn (i.doubled n) i n := by
  refine ⟨rfl, Nat.le_refl _, ?_⟩
  rw [Nat.add_mul]
  exact Nat.le_refl _

variable {i : Interval} {d : Decision}

theorem branch_liesIn (h : i.IsFull) (hd : d.IsFair) :
    0 < (i.branch d).range ∧ LiesIn (i.branch d) i 0 := by
  have hrange : 2 ≤ i.range := Nat.le_trans (by decide) h.low_le
  obtain ⟨hpos, hle⟩ := d.offset_add_part hd hrange
  refine ⟨hpos, rfl, ?_, ?_⟩
  · rw [Nat.pow_zero, Nat.mul_one]
    exact Nat.le_add_right ..
  · show i.low + d.offset i.range + d.part i.range ≤ (i.low + i.range) * 2 ^ 0
    omega

theorem narrow_liesIn (h : i.IsFull) (hd : d.IsFair) :
    LiesIn (i.narrow d) i (doublings 7 (d.part i.range)) := by
  have hboth := (branch_liesIn h hd).2.trans
    (doubled_liesIn (i.branch d) (doublings 7 (d.part i.range)))
  rw [Nat.zero_add] at hboth
  exact hboth

/-- What lies within the whole still does. -/
theorem LiesIn.inside {j : Interval} {s : Nat} (h : LiesIn j i s)
    (hi : i.low + i.range ≤ 255 * 2 ^ i.scale) : j.low + j.range ≤ 255 * 2 ^ j.scale := by
  rw [h.scale, Nat.pow_add, ← Nat.mul_assoc]
  exact Nat.le_trans h.le_high (Nat.mul_le_mul_right _ hi)

theorem IsFull.narrow (h : i.IsFull) (hd : d.IsFair) : (i.narrow d).IsFull := by
  obtain ⟨hpos, hbranch⟩ := branch_liesIn h hd
  have hpart : d.part i.range < 256 := by
    have hrange : 2 ≤ i.range := Nat.le_trans (by decide) h.low_le
    have hle := (d.offset_add_part hd hrange).2
    have hhigh := h.le_high
    omega
  obtain ⟨hbig, hsmall⟩ := doublings_spec hpos hpart
  exact ⟨hbig, hsmall, (narrow_liesIn h hd).inside h.inside⟩

theorem IsFull.after (h : i.IsFull) {ds : List Decision} (hds : ∀ d ∈ ds, d.IsFair) :
    (i.after ds).IsFull := by
  induction ds generalizing i with
  | nil => exact h
  | cons d ds ih =>
    have hnext := h.narrow (hds d List.mem_cons_self)
    exact ih hnext fun x hx => hds x (List.mem_cons_of_mem _ hx)

/-- **Decisions lead inwards**: however many follow, the part that remains lies in the present one. -/
theorem after_liesIn (h : i.IsFull) {ds : List Decision} (hds : ∀ d ∈ ds, d.IsFair) :
    ∃ s, LiesIn (i.after ds) i s := by
  induction ds generalizing i with
  | nil => exact ⟨0, .refl i⟩
  | cons d ds ih =>
    have hd := hds d List.mem_cons_self
    obtain ⟨s, hrest⟩ := ih (h.narrow hd) fun x hx => hds x (List.mem_cons_of_mem _ hx)
    exact ⟨_, (narrow_liesIn h hd).trans hrest⟩

/-! ## Even decisions -/

/-- The part that the first branch of an even decision leaves is doubled once, unless the range was
the longest. -/
theorem narrow_even (hlow : 128 ≤ i.range) (hhigh : i.range < 255) :
    i.narrow (.even false) = ⟨i.low * 2, 2 * (1 + (i.range - 1) * 128 / 256), i.scale + 1⟩ := by
  have hpart : (Decision.even false).part i.range = 1 + (i.range - 1) * 128 / 256 := rfl
  have hdoublings : doublings 7 (1 + (i.range - 1) * 128 / 256) = 1 := by
    rw [doublings, if_pos (by omega), doublings, if_neg (by omega)]
  unfold narrow branch doubled
  rw [hpart, hdoublings]
  show (⟨(i.low + 0) * 2, _ * 2, i.scale + 1⟩ : Interval) = _
  rw [Nat.add_zero, Nat.mul_comm 2]

theorem after_evens_of_short (n : Nat) (hlow : 128 ≤ i.range) (hhigh : i.range < 255) :
    ∃ range, i.after (List.replicate n (.even false)) = ⟨i.low * 2 ^ n, range, i.scale + n⟩ := by
  induction n generalizing i with
  | zero => exact ⟨i.range, by simp [after]⟩
  | succ n ih =>
    obtain ⟨range, hrest⟩ := ih (i := i.narrow (.even false))
      (by rw [narrow_even hlow hhigh]; show 128 ≤ 2 * _; omega)
      (by rw [narrow_even hlow hhigh]; show 2 * _ < 255; omega)
    refine ⟨range, ?_⟩
    have hafter : i.after (List.replicate (n + 1) (.even false)) =
        (i.narrow (.even false)).after (List.replicate n (.even false)) := rfl
    rw [hafter, hrest, narrow_even hlow hhigh, Interval.mk.injEq]
    refine ⟨?_, rfl, ?_⟩
    · rw [Nat.mul_assoc, ← Nat.pow_succ']
    · show i.scale + 1 + n = i.scale + (n + 1)
      omega

/-- First branches of even decisions double the lower end, each once except for the first at most. -/
theorem after_evens (h : i.IsFull) (n : Nat) :
    ∃ range s, n ≤ s ∧ s ≤ n + 1 ∧
      i.after (List.replicate (n + 1) (.even false)) = ⟨i.low * 2 ^ s, range, i.scale + s⟩ := by
  by_cases hshort : i.range < 255
  · obtain ⟨range, hafter⟩ := after_evens_of_short (n + 1) h.low_le hshort
    exact ⟨range, n + 1, by omega, by omega, hafter⟩
  · have hlong : i.range = 255 := by
      have hhigh := h.le_high
      omega
    have hfirst : i.narrow (.even false) = ⟨i.low, 128, i.scale⟩ := by
      unfold narrow branch
      rw [hlong]
      exact doubled_zero _
    obtain ⟨range, hafter⟩ := after_evens_of_short (i := i.narrow (.even false)) n
      (by rw [hfirst]) (by rw [hfirst]; show 128 < 255; omega)
    refine ⟨range, n, by omega, by omega, ?_⟩
    have hcons : i.after (List.replicate (n + 1) (.even false)) =
        (i.narrow (.even false)).after (List.replicate n (.even false)) := rfl
    rw [hcons, hafter, hfirst]

end Interval

end Cutout.Webp.Lossy
