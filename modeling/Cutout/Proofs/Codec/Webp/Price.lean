import Cutout.Proofs.Codec.Webp.Coder

/-!
# How much room decisions take

A decision takes as many bits as the range is doubled behind it, and that is most for the shortest
range (`Interval.scale_narrow_le`). With this price it can be said of decisions by themselves how many
bytes they take at most (`Costs.length_write_le`).

The price of single decisions is coarse, since the range is not the shortest before all of them. What
a run of decisions takes is known better if all ranges before it are tried
(`Interval.scale_after_le_of_ranges`).
-/

namespace Cutout.Webp.Lossy

open Cutout.Webp.Lossy.Interval

/-! ## Prices -/

/-- How often a range of the shortest length has to be doubled behind a decision. -/
def doublingsBehind (d : Decision) : Nat :=
  7 - (d.part 128).log2

/-- The most bits that a decision with these odds takes. -/
def price (first : Nat) : Nat :=
  max (doublingsBehind ⟨first, true⟩) (doublingsBehind ⟨first, false⟩)

theorem price_le (first : Nat) : price first ≤ 7 :=
  Nat.max_le.2 ⟨Nat.sub_le .., Nat.sub_le ..⟩

theorem doublings_le {range : Nat} (h : range < 256) : doublings 7 range ≤ 7 - range.log2 := by
  have hall : ∀ r < 256, doublings 7 r ≤ 7 - r.log2 := by decide +kernel
  exact hall range h

/-- The longer a range is, the less often it is doubled. -/
theorem doublings_antitone (fuel : Nat) {a b : Nat} (h : a ≤ b) :
    doublings fuel b ≤ doublings fuel a := by
  induction fuel generalizing a b with
  | zero => exact Nat.le_refl 0
  | succ fuel ih =>
    rw [doublings, doublings]
    split
    · next hb =>
      rw [if_pos (by omega)]
      exact Nat.succ_le_succ (ih (by omega))
    · exact Nat.zero_le _

/-- The shortest range leaves the shortest part. -/
theorem Decision.part_le {d : Decision} (hd : d.IsFair) {range : Nat} (h : 128 ≤ range) :
    d.part 128 ≤ d.part range := by
  have hd : d.first < 256 := hd
  obtain ⟨more, rfl⟩ : ∃ more, range = 128 + more := ⟨range - 128, by omega⟩
  have hrange : 128 + more - 1 = 127 + more := by omega
  have hmul : (127 + more) * d.first = 127 * d.first + more * d.first := Nat.add_mul ..
  have hmore : more * d.first ≤ more * 256 := Nat.mul_le_mul_left _ (by omega)
  unfold part split
  rw [hrange, hmul]
  generalize more * d.first = q at *
  generalize 127 * d.first = p
  split
  · omega
  · omega

namespace Interval

variable {i : Interval}

theorem scale_narrow_le (h : i.IsFull) {d : Decision} (hd : d.IsFair) :
    (i.narrow d).scale ≤ i.scale + price d.first := by
  have hshortest : doublings 7 (d.part i.range) ≤ doublings 7 (d.part 128) :=
    doublings_antitone 7 (d.part_le hd h.low_le)
  have hbehind : doublings 7 (d.part 128) ≤ doublingsBehind d := by
    have hle := (d.offset_add_part hd (show 2 ≤ 128 by decide)).2
    exact doublings_le (by omega)
  have hprice : doublingsBehind d ≤ price d.first := by
    obtain ⟨first, second⟩ := d
    cases second
    · exact Nat.le_max_right ..
    · exact Nat.le_max_left ..
  show i.scale + doublings 7 (d.part i.range) ≤ _
  omega

end Interval

/-- Decisions leave both branches possible and take at most `n` bits. -/
structure Costs (ds : List Decision) (n : Nat) : Prop where
  fair : ∀ d ∈ ds, d.IsFair
  price : (ds.map fun d => price d.first).sum ≤ n

namespace Costs

theorem nil : Costs [] 0 :=
  ⟨nofun, Nat.le_refl 0⟩

theorem mono {ds : List Decision} {m n : Nat} (h : Costs ds m) (hle : m ≤ n) : Costs ds n :=
  ⟨h.fair, Nat.le_trans h.price hle⟩

theorem append {ds ds' : List Decision} {m n : Nat} (h : Costs ds m) (h' : Costs ds' n) :
    Costs (ds ++ ds') (m + n) := by
  refine ⟨?_, ?_⟩
  · intro d hd
    exact (List.mem_append.1 hd).elim (h.fair d) (h'.fair d)
  · rw [List.map_append, List.sum_append]
    exact Nat.add_le_add h.price h'.price

/-- One more of what takes `n` bits each. -/
theorem append_mul {ds ds' : List Decision} {count n : Nat} (h : Costs ds n)
    (h' : Costs ds' (count * n)) : Costs (ds ++ ds') ((count + 1) * n) := by
  rw [Nat.succ_mul, Nat.add_comm]
  exact h.append h'

theorem single {first : Nat} (h : first < 256) (b : Bool) : Costs [⟨first, b⟩] (Lossy.price first) := by
  refine ⟨?_, by simp⟩
  intro d hd
  rw [List.mem_singleton.1 hd]
  exact h

theorem cons {first : Nat} (h : first < 256) (b : Bool) {ds : List Decision} {n : Nat}
    (h' : Costs ds n) : Costs (⟨first, b⟩ :: ds) (Lossy.price first + n) :=
  (single h b).append h'

/-- The bits of decisions are at most what they cost. -/
theorem scale_after_le {i : Interval} (hi : i.IsFull) {ds : List Decision} {n : Nat}
    (h : Costs ds n) : (i.after ds).scale ≤ i.scale + n := by
  obtain ⟨hfair, hprice⟩ := h
  refine Nat.le_trans ?_ (Nat.add_le_add_left hprice _)
  induction ds generalizing i n with
  | nil => exact Nat.le_refl _
  | cons d ds ih =>
    have hd := hfair d List.mem_cons_self
    have hrest := ih (hi.narrow hd) (fun x hx => hfair x (List.mem_cons_of_mem _ hx)) (Nat.le_refl _)
    have hfirst := scale_narrow_le hi hd
    rw [List.map_cons, List.sum_cons]
    show ((i.narrow d).after ds).scale ≤ _
    omega

/-- What is written has few more bits than the decisions cost. -/
theorem length_write_le {ds : List Decision} {n : Nat} (h : Costs ds n) :
    8 * (Coder.write ds).length ≤ n + 40 := by
  obtain ⟨t, -, ht, -, hlength⟩ := Coder.write_value h.fair
  have hscale := h.scale_after_le isFull_whole
  have hzero : whole.scale = 0 := rfl
  omega

end Costs

namespace Interval

/-- How often a range is doubled does not depend on where it lies. -/
theorem scale_after_congr {i j : Interval} (h : i.range = j.range) (ds : List Decision) :
    (i.after ds).scale + j.scale = (j.after ds).scale + i.scale := by
  induction ds generalizing i j with
  | nil => exact Nat.add_comm ..
  | cons d ds ih =>
    have hrange : (i.narrow d).range = (j.narrow d).range := by
      show d.part i.range * 2 ^ doublings 7 (d.part i.range) = _
      rw [h]
      rfl
    have hrest : ((i.narrow d).after ds).scale + (j.scale + doublings 7 (d.part j.range)) =
        ((j.narrow d).after ds).scale + (i.scale + doublings 7 (d.part i.range)) := ih hrange
    rw [h] at hrest
    show ((i.narrow d).after ds).scale + j.scale = ((j.narrow d).after ds).scale + i.scale
    omega

/-- What decisions take from every range, they take at most. -/
theorem scale_after_le_of_ranges {ds : List Decision} {n : Nat}
    (h : ∀ range < 256, 128 ≤ range → ((⟨0, range, 0⟩ : Interval).after ds).scale ≤ n)
    {i : Interval} (hi : i.IsFull) : (i.after ds).scale ≤ i.scale + n := by
  have hrange := h i.range hi.le_high hi.low_le
  have hsame : (i.after ds).scale + 0 = ((⟨0, i.range, 0⟩ : Interval).after ds).scale + i.scale :=
    scale_after_congr (i := i) (j := ⟨0, i.range, 0⟩) rfl ds
  omega

end Interval

end Cutout.Webp.Lossy
