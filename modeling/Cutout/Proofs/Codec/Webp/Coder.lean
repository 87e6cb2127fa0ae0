import Cutout.Proofs.Codec.Webp.Interval

/-!
# The digits of decisions

The writer of decisions holds the lower end of the interval that remains: its complete digits, and the
bits behind them (`Coder.Stands`). At the end it has written the lower end itself, with some zeros
behind it (`Coder.write_value`): by then all that was carried has arrived in the digits.
-/

namespace Cutout.Webp.Lossy

open Cutout.Webp.Lossy.Interval

namespace Coder

/-! ## Carrying -/

@[simp] theorem length_carry (bs : List UInt8) : (carry bs).length = bs.length := by
  induction bs with
  | nil => rfl
  | cons x bs ih =>
    rw [carry]
    split
    · rw [List.length_cons, List.length_cons, ih]
    · rfl

/-- One is added to the number of the digits, if it is not the last one. -/
theorem toNatLE_carry {bs : List UInt8} (h : Bytes.toNatLE bs + 1 < 256 ^ bs.length) :
    Bytes.toNatLE (carry bs) = Bytes.toNatLE bs + 1 := by
  induction bs with
  | nil => exact absurd h (by simp)
  | cons x bs ih =>
    have hbyte := x.toNat_lt
    rw [Bytes.toNatLE, List.length_cons, Nat.pow_succ] at h
    rw [carry]
    split
    · next hx =>
      have hx : x.toNat = 255 := by rw [hx]; rfl
      rw [Bytes.toNatLE, Bytes.toNatLE, ih (by omega), hx]
      show 0 + 256 * (Bytes.toNatLE bs + 1) = 255 + 256 * Bytes.toNatLE bs + 1
      omega
    · next hx =>
      have hx : x.toNat ≠ 255 := fun h => hx (UInt8.toNat_inj.1 h)
      have hsucc : (x + 1).toNat = x.toNat + 1 := by
        rw [UInt8.toNat_add]
        show (x.toNat + 1) % 256 = x.toNat + 1
        omega
      rw [Bytes.toNatLE, Bytes.toNatLE, hsucc]
      omega

/-! ## The writer stands for an interval -/

/-- The digits and the bits behind them are the lower end of an interval. -/
structure Stands (c : Coder) (i : Interval) : Prop where
  range : c.range = i.range
  low : i.low = Bytes.toNatLE c.bytes * 2 ^ (32 - c.room) + c.bottom
  room_pos : 1 ≤ c.room
  room_le : c.room ≤ 24
  length : 8 * c.bytes.length + 24 = i.scale + c.room
  /-- At most one is carried. -/
  fits : (c.bottom + c.range) * 2 ^ c.room ≤ 2 ^ 32 + 254 * 256

theorem stands_start : start.Stands whole :=
  ⟨rfl, rfl, by decide, by decide, rfl, by decide⟩

variable {c : Coder} {i : Interval}

/-- Before the last bit of a digit there is nothing to carry. -/
theorem Stands.bottom_lt (h : c.Stands i) (hroom : c.room ≠ 1) : 2 * c.bottom < 2 ^ 32 := by
  have hpos := h.room_pos
  have hfour : 2 ^ 2 ≤ 2 ^ c.room := Nat.pow_le_pow_right (by decide) (by omega)
  have hmul : c.bottom * 2 ^ 2 ≤ (c.bottom + c.range) * 2 ^ c.room :=
    Nat.mul_le_mul (by omega) hfour
  have hfits := h.fits
  omega

theorem double_of_room_ne (h : c.Stands i) (hroom : c.room ≠ 1) :
    c.double = ⟨c.bytes, 2 * c.bottom, 2 * c.range, c.room - 1⟩ := by
  have hlt := h.bottom_lt hroom
  have hcarry : c.bottom < 0x80000000 := by omega
  have hmod : 2 * c.bottom % 0x100000000 = 2 * c.bottom := Nat.mod_eq_of_lt hlt
  unfold double
  simp only [if_pos hcarry, hmod, if_neg hroom]

/-- The number of the digits after what is carried has been added. -/
theorem toNatLE_carried (h : c.Stands i) (hinside : i.low + i.range ≤ 255 * 2 ^ i.scale)
    (hroom : c.room = 1) :
    Bytes.toNatLE (if c.bottom < 0x80000000 then c.bytes else carry c.bytes) =
      Bytes.toNatLE c.bytes + 2 * c.bottom / 2 ^ 32 := by
  have hfits := h.fits
  rw [hroom] at hfits
  split
  · next hlt =>
    have hzero : 2 * c.bottom / 2 ^ 32 = 0 := Nat.div_eq_of_lt (by omega)
    rw [hzero, Nat.add_zero]
  · next hge =>
    have hone : 2 * c.bottom / 2 ^ 32 = 1 := by omega
    have hscale : i.scale = 8 * c.bytes.length + 23 := by
      have hlength := h.length
      omega
    have hlow := h.low
    rw [hroom] at hlow
    have hpow : 2 ^ i.scale = 256 ^ c.bytes.length * 2 ^ 23 := by
      rw [hscale, Nat.pow_add, Nat.pow_mul]
    rw [hpow] at hinside
    rw [hone]
    refine toNatLE_carry ?_
    generalize 256 ^ c.bytes.length = p at *
    generalize Bytes.toNatLE c.bytes = n at *
    omega

/-- Doubling completes a digit if one bit is missing. -/
theorem double_of_room_eq (hroom : c.room = 1) :
    c.double = ⟨UInt8.ofNat (2 * c.bottom % 2 ^ 32 / 2 ^ 24) ::
      (if c.bottom < 0x80000000 then c.bytes else carry c.bytes),
      2 * c.bottom % 2 ^ 32 % 2 ^ 24, 2 * c.range, 8⟩ := by
  unfold double
  rw [if_pos hroom]
  rfl

/-- The interval is doubled with a digit that is completed. -/
theorem Stands.double_last (h : c.Stands i) (hinside : i.low + i.range ≤ 255 * 2 ^ i.scale)
    (hrange : i.range < 128) (hroom : c.room = 1) : c.double.Stands (i.doubled 1) := by
  have hlength := h.length
  have hlow := h.low
  have hr := h.range
  have hdigits := toNatLE_carried h hinside hroom
  rw [hroom] at hlow hlength
  have hbyte : (UInt8.ofNat (2 * c.bottom % 2 ^ 32 / 2 ^ 24)).toNat =
      2 * c.bottom % 2 ^ 32 / 2 ^ 24 := by
    rw [UInt8.toNat_ofNat', Nat.mod_eq_of_lt]
    omega
  have hbytes : (if c.bottom < 0x80000000 then c.bytes else carry c.bytes).length =
      c.bytes.length := by
    split
    · rfl
    · exact length_carry _
  rw [double_of_room_eq hroom]
  refine ⟨?_, ?_, show 1 ≤ 8 by decide, show 8 ≤ 24 by decide, ?_, ?_⟩
  · show 2 * c.range = i.range * 2 ^ 1
    omega
  · show i.low * 2 ^ 1 = Bytes.toNatLE (_ :: _) * 2 ^ (32 - 8) + 2 * c.bottom % 2 ^ 32 % 2 ^ 24
    rw [Bytes.toNatLE, hdigits, hbyte, hlow]
    generalize Bytes.toNatLE c.bytes = n
    generalize c.bottom = b
    omega
  · show 8 * (_ :: _ : List UInt8).length + 24 = i.scale + 1 + 8
    rw [List.length_cons, hbytes]
    omega
  · show (2 * c.bottom % 2 ^ 32 % 2 ^ 24 + 2 * c.range) * 2 ^ 8 ≤ _
    omega

/-- The interval is doubled within a digit. -/
theorem Stands.double_within (h : c.Stands i) (hroom : c.room ≠ 1) :
    c.double.Stands (i.doubled 1) := by
  have hlength := h.length
  have hle := h.room_le
  obtain ⟨room, hsucc⟩ : ∃ room, c.room = room + 1 := ⟨c.room - 1, by have := h.room_pos; omega⟩
  have hless : c.room - 1 = room := by omega
  have hpow : 2 ^ (32 - room) = 2 * 2 ^ (32 - c.room) := by
    have hexp : 32 - room = (32 - c.room) + 1 := by omega
    rw [hexp, Nat.pow_succ, Nat.mul_comm]
  have hmul : (2 * c.bottom + 2 * c.range) * 2 ^ room = (c.bottom + c.range) * 2 ^ c.room := by
    rw [hsucc, Nat.pow_succ]
    ring
  rw [double_of_room_ne h hroom, hless]
  refine ⟨?_, ?_, show 1 ≤ room by omega, show room ≤ 24 by omega, ?_, ?_⟩
  · show 2 * c.range = i.range * 2 ^ 1
    rw [h.range]
    omega
  · show i.low * 2 ^ 1 = Bytes.toNatLE c.bytes * 2 ^ (32 - room) + 2 * c.bottom
    rw [hpow, h.low]
    ring
  · show 8 * c.bytes.length + 24 = i.scale + 1 + room
    omega
  · show (2 * c.bottom + 2 * c.range) * 2 ^ room ≤ _
    rw [hmul]
    exact h.fits

/-- Doubling the writer doubles its interval. -/
theorem Stands.double (h : c.Stands i) (hinside : i.low + i.range ≤ 255 * 2 ^ i.scale)
    (hrange : i.range < 128) : c.double.Stands (i.doubled 1) := by
  by_cases hroom : c.room = 1
  · exact h.double_last hinside hrange hroom
  · exact h.double_within hroom

theorem Stands.normalise (h : c.Stands i) (hinside : i.low + i.range ≤ 255 * 2 ^ i.scale)
    (fuel : Nat) : (normalise fuel c).Stands (i.doubled (doublings fuel i.range)) := by
  induction fuel generalizing c i with
  | zero => rwa [Coder.normalise, doublings, doubled_zero]
  | succ fuel ih =>
    rw [Coder.normalise, doublings, h.range]
    split
    · next hrange =>
      have hnext := ih (h.double hinside hrange) ((doubled_liesIn i 1).inside hinside)
      rw [doubled_doubled] at hnext
      have hsame : (i.doubled 1).range = 2 * i.range := Nat.mul_comm ..
      rwa [hsame] at hnext
    · rwa [doubled_zero]

theorem put_eq (h : c.Stands i) (d : Decision) :
    put c d = Coder.normalise 7 ⟨c.bytes, c.bottom + d.offset i.range, d.part i.range, c.room⟩ := by
  unfold put Decision.offset Decision.part Decision.split
  rw [h.range]
  split <;> rfl

theorem Stands.branch (h : c.Stands i) (hi : i.IsFull) {d : Decision} (hd : d.IsFair) :
    (⟨c.bytes, c.bottom + d.offset i.range, d.part i.range, c.room⟩ : Coder).Stands (i.branch d) := by
  have hrange : 2 ≤ i.range := Nat.le_trans (by decide) hi.low_le
  have hle := (d.offset_add_part hd hrange).2
  refine ⟨rfl, ?_, h.room_pos, h.room_le, h.length, ?_⟩
  · show i.low + d.offset i.range = _ + (c.bottom + d.offset i.range)
    rw [h.low]
    exact Nat.add_assoc ..
  · show (c.bottom + d.offset i.range + d.part i.range) * 2 ^ c.room ≤ _
    have hr := h.range
    refine Nat.le_trans (Nat.mul_le_mul_right _ ?_) h.fits
    omega

/-- A decision narrows the interval that the writer stands for. -/
theorem Stands.put (h : c.Stands i) (hi : i.IsFull) {d : Decision} (hd : d.IsFair) :
    (put c d).Stands (i.narrow d) := by
  rw [put_eq h]
  exact (h.branch hi hd).normalise ((branch_liesIn hi hd).2.inside hi.inside) 7

theorem Stands.foldl (h : c.Stands i) (hi : i.IsFull) {ds : List Decision}
    (hds : ∀ d ∈ ds, d.IsFair) : (ds.foldl Coder.put c).Stands (i.after ds) := by
  induction ds generalizing c i with
  | nil => exact h
  | cons d ds ih =>
    have hd := hds d List.mem_cons_self
    exact ih (h.put hi hd) (hi.narrow hd) fun x hx => hds x (List.mem_cons_of_mem _ hx)

/-! ## The end -/

/-- Nothing is left to be carried. -/
def IsSettled (c : Coder) : Prop :=
  c.bottom * 2 ^ c.room < 2 ^ 32

/-- Doubling settles what completes a digit, and unsettles nothing. -/
theorem Stands.settles_double (h : c.Stands i) {n : Nat}
    (hs : c.IsSettled ∨ c.bytes.length = n) : c.double.IsSettled ∨ c.double.bytes.length = n := by
  by_cases hroom : c.room = 1
  · refine .inl ?_
    unfold IsSettled Coder.double
    rw [if_pos hroom]
    show 2 * c.bottom % 2 ^ 32 % 2 ^ 24 * 2 ^ 8 < 2 ^ 32
    omega
  · rw [double_of_room_ne h hroom]
    refine hs.imp_left fun hs => ?_
    have hpow : 2 ^ c.room = 2 * 2 ^ (c.room - 1) := by
      have hpos := h.room_pos
      rw [← Nat.pow_succ', Nat.succ_eq_add_one, Nat.sub_add_cancel hpos]
    show 2 * c.bottom * 2 ^ (c.room - 1) < 2 ^ 32
    have hmul : 2 * c.bottom * 2 ^ (c.room - 1) = c.bottom * 2 ^ c.room := by
      rw [hpow]
      ring
    rw [hmul]
    exact hs

theorem Stands.settles_normalise (h : c.Stands i) (hinside : i.low + i.range ≤ 255 * 2 ^ i.scale)
    {n : Nat} (hs : c.IsSettled ∨ c.bytes.length = n) (fuel : Nat) :
    (Coder.normalise fuel c).IsSettled ∨ (Coder.normalise fuel c).bytes.length = n := by
  induction fuel generalizing c i with
  | zero => exact hs
  | succ fuel ih =>
    rw [Coder.normalise]
    split
    · next hrange =>
      have hdouble := h.double hinside (h.range ▸ hrange)
      exact ih hdouble ((doubled_liesIn i 1).inside hinside) (h.settles_double hs)
    · exact hs

/-- Even decisions for the first branch complete digits, and then everything is settled. -/
theorem Stands.settles_evens (h : c.Stands i) (hi : i.IsFull) {n : Nat}
    (hs : c.IsSettled ∨ c.bytes.length = n) (k : Nat) :
    ((List.replicate k (Decision.even false)).foldl Coder.put c).IsSettled ∨
      ((List.replicate k (Decision.even false)).foldl Coder.put c).bytes.length = n := by
  induction k generalizing c i with
  | zero => exact hs
  | succ k ih =>
    have hfair : (Decision.even false).IsFair := show 128 < 256 by decide
    have hbranch := h.branch hi hfair
    have hput : Coder.put c (.even false) = Coder.normalise 7
        ⟨c.bytes, c.bottom + 0, (Decision.even false).part i.range, c.room⟩ := put_eq h _
    have hsettles := hbranch.settles_normalise ((branch_liesIn hi hfair).2.inside hi.inside) hs 7
    rw [List.replicate_succ, List.foldl_cons]
    refine ih (h.put hi hfair) (hi.narrow hfair) ?_
    rw [hput]
    exact hsettles

/-- Where nothing is left to be carried and the lower end is a multiple of what one stands for in the
last digit, the digits are the lower end. -/
theorem Stands.toNatLE_of_settled {low range scale s : Nat}
    (h : c.Stands ⟨low * 2 ^ s, range, scale⟩) (hsettled : c.IsSettled) (hmany : 32 ≤ s + c.room) :
    Bytes.toNatLE c.bytes = low * 2 ^ (s + c.room - 32) := by
  have hroom := h.room_le
  have hlow : low * 2 ^ s = Bytes.toNatLE c.bytes * 2 ^ (32 - c.room) + c.bottom := h.low
  have hpow : 2 ^ s = 2 ^ (s + c.room - 32) * 2 ^ (32 - c.room) := by
    rw [← Nat.pow_add]
    congr 1
    omega
  have hbottom : c.bottom < 2 ^ (32 - c.room) := by
    have hsplit : 2 ^ 32 = 2 ^ (32 - c.room) * 2 ^ c.room := by
      rw [← Nat.pow_add]
      congr 1
      omega
    rw [IsSettled, hsplit] at hsettled
    exact Nat.lt_of_mul_lt_mul_right hsettled
  have hpos := Nat.two_pow_pos (32 - c.room)
  have hdiv := congrArg (· / 2 ^ (32 - c.room)) hlow
  rw [hpow, ← Nat.mul_assoc] at hdiv
  simp only [Nat.mul_div_cancel _ hpos] at hdiv
  rw [hdiv, Nat.mul_comm, Nat.mul_add_div hpos, Nat.div_eq_of_lt hbottom, Nat.add_zero]

/-- **What is written is the lower end** of the interval that the decisions leave, with zeros behind
it. -/
theorem write_value {ds : List Decision} (hds : ∀ d ∈ ds, d.IsFair) :
    ∃ t, 8 ≤ t ∧ t ≤ 32 ∧ Bytes.toNatBE (write ds) = (whole.after ds).low * 2 ^ t ∧
      8 * (write ds).length = (whole.after ds).scale + 8 + t := by
  have hfull := isFull_whole.after hds
  have hstands := stands_start.foldl isFull_whole hds
  generalize hi : whole.after ds = i at *
  generalize hc : ds.foldl put start = c at *
  have hevens : ∀ d ∈ List.replicate 40 (Decision.even false), d.IsFair := by
    intro d hd
    rw [List.eq_of_mem_replicate hd]
    exact show 128 < 256 by decide
  obtain ⟨range, s, hmany, hfew, hafter⟩ := after_evens hfull 39
  have hend := hstands.foldl hfull hevens
  have hsettles := hstands.settles_evens hfull (.inr rfl) 40
  have hwrite : write ds =
      ((List.replicate 40 (Decision.even false)).foldl put c).bytes.reverse := by
    rw [← hc]
    rfl
  rw [hafter] at hend
  rw [hwrite, Bytes.toNatBE_reverse, List.length_reverse]
  generalize (List.replicate 40 (Decision.even false)).foldl put c = e at *
  have hlength : 8 * e.bytes.length + 24 = i.scale + s + e.room := hend.length
  have hroom := hend.room_pos
  have hroom' := hend.room_le
  have hsettled : e.IsSettled := by
    rcases hsettles with hsettled | hsame
    · exact hsettled
    · have hbefore := hstands.length
      have hle := hstands.room_le
      omega
  exact ⟨s + e.room - 32, by omega, by omega, hend.toNatLE_of_settled hsettled (by omega), by omega⟩

end Coder

end Cutout.Webp.Lossy
