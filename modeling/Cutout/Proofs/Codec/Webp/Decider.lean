import Cutout.Codec.Webp.Lossy.Decider
import Cutout.Proofs.Codec.Webp.Coder
import Cutout.Proofs.Codec.Yields

/-!
# Decisions are read as they were written

The reader of decisions holds how far the fraction lies above the lower end of the interval that
remains, as far as its digits are known (`StandsAt`). The digits that are not known yet cannot
matter, since a branch begins at a multiple of what they are worth (`StandsAt.distance_lt_iff`). So a
reader of what was written decides as the writer did, and the digits last (`follows_write`).
-/

namespace Cutout.Webp.Lossy

open Cutout.Webp.Lossy.Interval

/-! ## Following decisions -/

/-- Asked for the next decisions with their odds, the reader gives these. -/
def Follows (d : Decider) : List Decision → Prop
  | [] => True
  | x :: ds => d.left ≠ 0 ∧ (d.next x.first).1 = x.second ∧ Follows (d.next x.first).2 ds

/-! ## Digits -/

/-- The number of the first `k` digits. -/
def leading (b : Bytes) (k : Nat) : Nat :=
  Bytes.toNatBE (b.take k)

theorem toNatBE_append (a b : Bytes) :
    Bytes.toNatBE (a ++ b) = Bytes.toNatBE a * 256 ^ b.length + Bytes.toNatBE b := by
  have hfrom : ∀ (n : Nat) (b : Bytes), b.foldl (fun n x => n * 256 + x.toNat) n =
      n * 256 ^ b.length + Bytes.toNatBE b := by
    intro n b
    induction b generalizing n with
    | nil => simp [Bytes.toNatBE]
    | cons x b ih =>
      have hcons : Bytes.toNatBE (x :: b) = b.foldl (fun n x => n * 256 + x.toNat) x.toNat := by
        simp [Bytes.toNatBE]
      rw [List.foldl_cons, ih, hcons, ih x.toNat, List.length_cons, Nat.pow_succ]
      ring
  unfold Bytes.toNatBE
  rw [List.foldl_append]
  exact hfrom _ b

/-- The first digits are what is left if the others are dropped. -/
theorem leading_eq (b : Bytes) (k : Nat) :
    leading b k = Bytes.toNatBE b / 256 ^ (b.length - k) := by
  have hrest : Bytes.toNatBE (b.drop k) < 256 ^ (b.length - k) := by
    rw [← List.length_drop]
    exact Bytes.toNatBE_lt _
  have hsplit := toNatBE_append (b.take k) (b.drop k)
  rw [List.take_append_drop, List.length_drop] at hsplit
  have hpos : 0 < 256 ^ (b.length - k) := Nat.pow_pos (by decide)
  rw [hsplit, leading, Nat.mul_comm, Nat.mul_add_div hpos, Nat.div_eq_of_lt hrest, Nat.add_zero]

namespace Decider

/-! ## The reader stands for an interval -/

/-- The reader stands at an interval with the digits that begin in it. Of the digits, two and those that
were needed for doubling are known. -/
structure StandsAt (b : Bytes) (d : Decider) (i : Interval) : Prop where
  range : d.range = i.range
  left : d.left = 8 * b.length + 1 - i.scale
  room : d.room = 8 - i.scale % 8
  bytes : d.bytes = b.drop (2 + i.scale / 8)
  distance : d.distance + 256 * i.low = leading b (2 + i.scale / 8) * 2 ^ (i.scale % 8)

theorem standsAt_ofBytes {b : Bytes} (h : 2 ≤ b.length) : StandsAt b (ofBytes b) whole := by
  refine ⟨rfl, rfl, rfl, rfl, ?_⟩
  match b, h with
  | x :: y :: rest, _ =>
    show Bytes.toNatBE [x, y] + 256 * 0 = Bytes.toNatBE [x, y] * 2 ^ 0
    rw [Nat.mul_zero, Nat.add_zero, Nat.pow_zero, Nat.mul_one]

variable {b : Bytes} {d : Decider} {i : Interval}

theorem StandsAt.range_double (h : StandsAt b d i) : 2 * d.range = (i.doubled 1).range := by
  rw [h.range]
  exact Nat.mul_comm ..

theorem StandsAt.left_double (h : StandsAt b d i) :
    d.left - 1 = 8 * b.length + 1 - (i.doubled 1).scale := by
  rw [h.left]
  exact Nat.sub_sub ..

/-- The interval is doubled with the first bit of the next digit. -/
theorem StandsAt.double_last (h : StandsAt b d i) (hmore : i.scale + 17 ≤ 8 * b.length)
    (hlast : i.scale % 8 = 7) : StandsAt b d.double (i.doubled 1) := by
  have hroom := h.room
  have hdistance := h.distance
  have hone : d.room = 1 := by omega
  have hlt : 2 + i.scale / 8 < b.length := by omega
  have hbytes : d.bytes = b[2 + i.scale / 8] :: b.drop (2 + i.scale / 8 + 1) := by
    rw [h.bytes]
    exact List.drop_eq_getElem_cons hlt
  have hdouble : d.double = ⟨b.drop (2 + i.scale / 8 + 1),
      2 * d.distance + b[2 + i.scale / 8].toNat, 2 * d.range, 8, d.left - 1⟩ := by
    unfold Decider.double
    rw [if_pos hone, hbytes]
  have hquot : (i.scale + 1) / 8 = i.scale / 8 + 1 := by omega
  have hrem : (i.scale + 1) % 8 = 0 := by omega
  have hleading : leading b (2 + i.scale / 8 + 1) =
      leading b (2 + i.scale / 8) * 256 + b[2 + i.scale / 8].toNat := by
    unfold leading
    rw [List.take_add_one, List.getElem?_eq_getElem hlt, toNatBE_append]
    simp [Bytes.toNatBE]
  rw [hdouble]
  refine ⟨h.range_double, h.left_double, ?_, ?_, ?_⟩
  · show 8 = 8 - (i.scale + 1) % 8
    rw [hrem]
  · show _ = b.drop (2 + (i.scale + 1) / 8)
    rw [hquot, Nat.add_assoc]
  · show 2 * d.distance + _ + 256 * (i.low * 2 ^ 1) =
      leading b (2 + (i.scale + 1) / 8) * 2 ^ ((i.scale + 1) % 8)
    rw [hlast] at hdistance
    rw [hquot, hrem, ← Nat.add_assoc, hleading]
    omega

/-- The interval is doubled within a digit. -/
theorem StandsAt.double_within (h : StandsAt b d i) (hlast : i.scale % 8 ≠ 7) :
    StandsAt b d.double (i.doubled 1) := by
  have hroom := h.room
  have hone : d.room ≠ 1 := by omega
  have hdouble : d.double = ⟨d.bytes, 2 * d.distance, 2 * d.range, d.room - 1, d.left - 1⟩ := by
    unfold Decider.double
    rw [if_neg hone]
  have hquot : (i.scale + 1) / 8 = i.scale / 8 := by omega
  have hrem : (i.scale + 1) % 8 = i.scale % 8 + 1 := by omega
  have htwice : leading b (2 + i.scale / 8) * 2 ^ (i.scale % 8 + 1) =
      2 * (leading b (2 + i.scale / 8) * 2 ^ (i.scale % 8)) := by
    rw [Nat.pow_succ]
    ring
  rw [hdouble]
  refine ⟨h.range_double, h.left_double, ?_, ?_, ?_⟩
  · show d.room - 1 = 8 - (i.scale + 1) % 8
    omega
  · show d.bytes = b.drop (2 + (i.scale + 1) / 8)
    rw [hquot, h.bytes]
  · show 2 * d.distance + 256 * (i.low * 2 ^ 1) =
      leading b (2 + (i.scale + 1) / 8) * 2 ^ ((i.scale + 1) % 8)
    rw [hquot, hrem, htwice, ← h.distance]
    omega

/-- Doubling the reader doubles its interval, as long as there are digits. -/
theorem StandsAt.double (h : StandsAt b d i) (hmore : i.scale + 17 ≤ 8 * b.length) :
    StandsAt b d.double (i.doubled 1) := by
  by_cases hlast : i.scale % 8 = 7
  · exact h.double_last hmore hlast
  · exact h.double_within hlast

theorem StandsAt.normalise (h : StandsAt b d i) (fuel : Nat)
    (hmore : i.scale + doublings fuel i.range + 16 ≤ 8 * b.length) :
    StandsAt b (normalise fuel d) (i.doubled (doublings fuel i.range)) := by
  induction fuel generalizing d i with
  | zero => rwa [Decider.normalise, doublings, doubled_zero]
  | succ fuel ih =>
    rw [Decider.normalise, h.range]
    rw [doublings] at hmore ⊢
    split
    · next hrange =>
      rw [if_pos hrange] at hmore
      have hsame : (i.doubled 1).range = 2 * i.range := Nat.mul_comm ..
      have hnext := ih (h.double (by omega)) (by
        rw [hsame]
        show i.scale + 1 + _ + 16 ≤ _
        omega)
      rw [doubled_doubled, hsame] at hnext
      exact hnext
    · rwa [doubled_zero]

/-- **What is not known of the fraction does not matter**: the fraction lies in the first branch if its
known digits do. -/
theorem StandsAt.distance_lt_iff (h : StandsAt b d i) {u : Nat} (hu : 8 ≤ u)
    (hlength : 8 * b.length = i.scale + u + 8) (split : Nat) :
    d.distance < 256 * split ↔ Bytes.toNatBE b < (i.low + split) * 2 ^ u := by
  have hdistance := h.distance
  rw [leading_eq] at hdistance
  generalize hv : Bytes.toNatBE b = v at *
  generalize hj : i.scale % 8 = j at *
  have hj8 : j < 8 := by omega
  -- what the unknown digits are worth, in terms of the doublings
  have hunknown : (256 : Nat) ^ (b.length - (2 + i.scale / 8)) = 2 ^ (u + j - 8) := by
    rw [show (256 : Nat) = 2 ^ 8 from rfl, ← Nat.pow_mul]
    congr 1
    omega
  have hunit : 256 = 2 ^ (8 - j) * 2 ^ j := by
    rw [← Nat.pow_add, Nat.sub_add_cancel (Nat.le_of_lt hj8)]
  have hwhole : 2 ^ (8 - j) * 2 ^ (u + j - 8) = 2 ^ u := by
    rw [← Nat.pow_add]
    congr 1
    omega
  rw [hunknown] at hdistance
  calc d.distance < 256 * split
      ↔ d.distance + 256 * i.low < 256 * (i.low + split) := by omega
    _ ↔ v / 2 ^ (u + j - 8) * 2 ^ j < (i.low + split) * 2 ^ (8 - j) * 2 ^ j := by
      rw [hdistance, Nat.mul_comm 256, Nat.mul_assoc, ← hunit]
    _ ↔ v / 2 ^ (u + j - 8) < (i.low + split) * 2 ^ (8 - j) :=
      Nat.mul_lt_mul_right (Nat.two_pow_pos j)
    _ ↔ v < (i.low + split) * 2 ^ (8 - j) * 2 ^ (u + j - 8) :=
      Nat.div_lt_iff_lt_mul (Nat.two_pow_pos _)
    _ ↔ v < (i.low + split) * 2 ^ u := by rw [Nat.mul_assoc, hwhole]

/-- A fraction that lies in what remains lies in the branch that was taken. -/
theorem toNatBE_mem_branch {x : Decision} {j : Interval} {s t : Nat} (hj : LiesIn j (i.branch x) s)
    (hrange : 0 < j.range) (hvalue : Bytes.toNatBE b = j.low * 2 ^ t) :
    (i.low + x.offset i.range) * 2 ^ (s + t) ≤ Bytes.toNatBE b ∧
      Bytes.toNatBE b < (i.low + x.offset i.range + x.part i.range) * 2 ^ (s + t) := by
  have hlow : (i.low + x.offset i.range) * 2 ^ s ≤ j.low := hj.low_le
  have hhigh : j.low + j.range ≤ (i.low + x.offset i.range + x.part i.range) * 2 ^ s := hj.le_high
  rw [hvalue, Nat.pow_add, ← Nat.mul_assoc, ← Nat.mul_assoc]
  refine ⟨Nat.mul_le_mul_right _ hlow, Nat.mul_lt_mul_of_pos_right ?_ (Nat.two_pow_pos t)⟩
  omega

/-- A reader that takes the branch with the fraction stands at this branch. -/
theorem StandsAt.branch (h : StandsAt b d i) (x : Decision)
    (hdistance : 256 * x.offset i.range ≤ d.distance) :
    StandsAt b ⟨d.bytes, d.distance - 256 * x.offset i.range, x.part i.range, d.room, d.left⟩
      (i.branch x) := by
  refine ⟨rfl, h.left, h.room, h.bytes, ?_⟩
  show d.distance - 256 * x.offset i.range + 256 * (i.low + x.offset i.range) = _
  have hbefore : d.distance + 256 * i.low =
      leading b (2 + (i.branch x).scale / 8) * 2 ^ ((i.branch x).scale % 8) := h.distance
  omega

/-- The reader takes the branch in which the fraction lies. -/
theorem next_eq {x : Decision} (hrange : d.range = i.range)
    (h : d.distance < 256 * x.split i.range ↔ x.second = false) :
    d.next x.first = (x.second, normalise 7
      ⟨d.bytes, d.distance - 256 * x.offset i.range, x.part i.range, d.room, d.left⟩) := by
  have hsplit : 1 + (d.range - 1) * x.first / 256 = x.split i.range := by
    rw [hrange]
    rfl
  unfold Decider.next Decision.offset Decision.part
  simp only [hsplit]
  cases hsecond : x.second with
  | false =>
    rw [if_pos (h.2 hsecond)]
    rfl
  | true =>
    rw [if_neg (by simp [h, hsecond]), hrange]
    rfl

/-- A decision narrows the interval that the reader stands at, if the fraction lies in what remains. -/
theorem StandsAt.next (h : StandsAt b d i) {x : Decision} {s : Nat} {j : Interval}
    (hj : LiesIn j (i.narrow x) s) {t : Nat} (ht : 8 ≤ t)
    (hvalue : Bytes.toNatBE b = j.low * 2 ^ t) (hrange : 0 < j.range)
    (hlength : 8 * b.length = j.scale + 8 + t) :
    d.left ≠ 0 ∧ (d.next x.first).1 = x.second ∧ StandsAt b (d.next x.first).2 (i.narrow x) := by
  have hbranch := (doubled_liesIn (i.branch x) (doublings 7 (x.part i.range))).trans hj
  generalize hn : doublings 7 (x.part i.range) + s = n at hbranch
  have hscale : j.scale = i.scale + n := hbranch.scale
  obtain ⟨hlow, hhigh⟩ := toNatBE_mem_branch hbranch hrange hvalue
  have hiff := h.distance_lt_iff (u := n + t) (by omega) (by omega) (x.split i.range)
  have htaken : d.distance < 256 * x.split i.range ↔ x.second = false := by
    rw [hiff]
    cases hsecond : x.second with
    | false =>
      have hoffset : x.offset i.range = 0 := by simp [Decision.offset, hsecond]
      have hpart : x.part i.range = x.split i.range := by simp [Decision.part, hsecond]
      rw [hoffset, hpart] at hhigh
      exact iff_of_true hhigh rfl
    | true =>
      have hoffset : x.offset i.range = x.split i.range := by simp [Decision.offset, hsecond]
      rw [hoffset] at hlow
      exact iff_of_false (Nat.not_lt.2 hlow) (by decide)
  have hfar : 256 * x.offset i.range ≤ d.distance := by
    unfold Decision.offset
    split
    · next hsecond =>
      rw [hsecond] at htaken
      exact Nat.not_lt.1 fun hlt => absurd (htaken.1 hlt) (by decide)
    · exact Nat.zero_le _
  have hleft : d.left ≠ 0 := by
    rw [h.left]
    omega
  rw [next_eq h.range htaken]
  refine ⟨hleft, rfl, (h.branch x hfar).normalise 7 ?_⟩
  show i.scale + doublings 7 (x.part i.range) + 16 ≤ 8 * b.length
  omega

/-- A reader that stands where some decisions have led follows them. -/
theorem StandsAt.follows (h : StandsAt b d i) (hi : i.IsFull) {ds : List Decision}
    (hds : ∀ x ∈ ds, x.IsFair) {t : Nat} (ht : 8 ≤ t)
    (hvalue : Bytes.toNatBE b = (i.after ds).low * 2 ^ t)
    (hlength : 8 * b.length = (i.after ds).scale + 8 + t) : Follows d ds := by
  induction ds generalizing d i with
  | nil => exact trivial
  | cons x ds ih =>
    have hx := hds x List.mem_cons_self
    have hrest : ∀ y ∈ ds, y.IsFair := fun y hy => hds y (List.mem_cons_of_mem _ hy)
    have hnarrow := hi.narrow hx
    obtain ⟨s, hlies⟩ := after_liesIn hnarrow hrest
    have hrange : 0 < ((i.narrow x).after ds).range := by
      have hlow := (hnarrow.after hrest).low_le
      omega
    obtain ⟨hleft, hsecond, hstands⟩ := h.next hlies ht hvalue hrange hlength
    exact ⟨hleft, hsecond, ih hstands hnarrow hrest hvalue hlength⟩

end Decider

/-- **Decisions are read as they were written.** -/
theorem follows_write {ds : List Decision} (hds : ∀ d ∈ ds, d.IsFair) :
    Follows (Decider.ofBytes (Coder.write ds)) ds := by
  obtain ⟨t, ht, -, hvalue, hlength⟩ := Coder.write_value hds
  have htwo : 2 ≤ (Coder.write ds).length := by omega
  exact (Decider.standsAt_ofBytes htwo).follows isFull_whole hds ht hvalue hlength

end Cutout.Webp.Lossy
