import Cutout.Codec.Deflate
import Cutout.Codec.Inflate

/-!
# Streams that are written are read

A stream without compression is read back as it was written (`Inflate.unpack_pack`). A block is read
whatever follows it (`Inflate.blocks_block`), and the writer makes a block of what is left until it
fits; `Bytes.pieces_induction` is the induction on what is still to be written.
-/

namespace Cutout

namespace Bytes

/-- What is written in pieces of at most `n` bytes: all of it if it fits into one piece, else a full
piece, and then the rest with less fuel. -/
theorem pieces_induction {n : Nat} {motive : Nat → Bytes → Prop}
    (last : ∀ fuel b, b.length ≤ n → motive (fuel + 1) b)
    (next : ∀ fuel b, n < b.length → motive fuel (b.drop n) → motive (fuel + 1) b) {fuel : Nat}
    {b : Bytes} (hpos : 0 < fuel) (h : b.length ≤ fuel * n) : motive fuel b := by
  induction fuel generalizing b with
  | zero => exact absurd hpos (Nat.lt_irrefl 0)
  | succ fuel ih =>
    by_cases hfits : b.length ≤ n
    · exact last fuel b hfits
    · have hpos : 0 < fuel := Nat.pos_of_ne_zero fun h0 => hfits (by simpa [h0] using h)
      have hdrop : (b.drop n).length ≤ fuel * n := by
        rw [List.length_drop]
        rw [Nat.succ_mul] at h
        omega
      exact next fuel b (Nat.not_le.1 hfits) (ih hpos hdrop)

/-- The fuel that writers use is enough. -/
theorem length_le_pieces (b : Bytes) {n : Nat} (hn : 0 < n) :
    b.length ≤ (b.length / n + 1) * n := by
  rw [Nat.mul_comm]
  exact Nat.le_of_lt (Nat.lt_mul_div_succ b.length hn)

end Bytes

namespace Deflate

/-- A block is longer than its bytes. -/
theorem length_block (last : Bool) (b : Bytes) : (block last b).length = b.length + 5 := by
  simp only [block, List.length_append, List.length_cons, List.length_nil, Bytes.length_ofNatLE]
  omega

/-- With enough fuel nothing is left out of the blocks. -/
theorem length_le_blocks {fuel : Nat} {b : Bytes} (hpos : 0 < fuel)
    (h : b.length ≤ fuel * longestBlock) : b.length ≤ (blocks fuel b).length := by
  refine Bytes.pieces_induction (motive := fun fuel b => b.length ≤ (blocks fuel b).length)
    ?_ ?_ hpos h
  · intro fuel b hfits
    rw [blocks, if_pos hfits, length_block]
    omega
  · intro fuel b hlong ih
    rw [blocks, if_neg (Nat.not_le.2 hlong), List.length_append, length_block, List.length_take]
    rw [List.length_drop] at ih
    omega

end Deflate

namespace Inflate

open Deflate (longestBlock)

/-- The bit that says whether a block is the last one. -/
theorem number_last (last : Bool) (rest : Bytes) (out : Array UInt8) :
    number 1 (Bits.ofBytes ((if last then 1 else 0) :: rest)) out =
      .ok (last.toNat, ⟨(if last then 1 else 0) :: rest, 1⟩) := by
  cases last <;> simp [number, Bits.lowNumber?, Bits.low?, Bits.ofBytes, Bits.advance]

/-- The two bits that say that the bytes of a block are as they are. -/
theorem number_kind (last : Bool) (rest : Bytes) (out : Array UInt8) :
    number 2 ⟨(if last then 1 else 0) :: rest, 1⟩ out =
      .ok (0, ⟨(if last then 1 else 0) :: rest, 3⟩) := by
  cases last <;> simp [number, Bits.lowNumber?, Bits.low?, Bits.advance, Nat.testBit]

/-- The length of a block and its complement are read as they were written. -/
theorem stored_append {x : UInt8} {b : Bytes} (h : b.length ≤ longestBlock) (rest : Bytes)
    (out : Array UInt8) :
    stored ⟨x :: (Bytes.ofNatLE 2 b.length ++ Bytes.ofNatLE 2 (longestBlock - b.length) ++ b ++ rest),
        3⟩ out = .ok (Bits.ofBytes rest, out ++ b.toArray) := by
  have hlength (n : Nat) (hn : n ≤ 65535) :
      Bytes.toNatLE [UInt8.ofNat (n % 256), UInt8.ofNat (n / 256 % 256)] = n := by
    have hread := Bytes.toNatLE_ofNatLE 2 n
    rw [show Nat.pow 256 2 = 65536 from rfl, Nat.mod_eq_of_lt (by omega)] at hread
    exact hread
  have hfits : b.length ≤ 65535 := h
  have hcomplement := hlength (longestBlock - b.length) (Nat.sub_le ..)
  have hsum : b.length + (longestBlock - b.length) = 65535 := Nat.add_sub_cancel' h
  simp only [stored, Bits.align, Bytes.ofNatLE, List.cons_append, List.nil_append, List.drop_one,
    List.tail_cons, hlength b.length hfits, hcomplement, hsum, ne_eq, not_true_eq_false, if_false,
    Bytes.take?_append rfl, reduceCtorEq, OfNat.ofNat]

/-- A block is read, whatever follows it. -/
theorem blocks_block {b : Bytes} (h : b.length ≤ longestBlock) (last : Bool) (fuel : Nat)
    (rest : Bytes) (out : Array UInt8) :
    blocks (fuel + 1) (Bits.ofBytes (Deflate.block last b ++ rest)) out =
      if last then .ok (Bits.ofBytes rest, out ++ b.toArray)
      else blocks fuel (Bits.ofBytes rest) (out ++ b.toArray) := by
  have hblock : Deflate.block last b ++ rest = (if last then 1 else 0) ::
      (Bytes.ofNatLE 2 b.length ++ Bytes.ofNatLE 2 (longestBlock - b.length) ++ b ++ rest) := by
    simp only [Deflate.block, List.cons_append, List.nil_append]
  rw [hblock, blocks, number_last]
  simp only [bind, Except.bind, number_kind, stored_append h]
  cases last <;> rfl

/-- The blocks of a byte string are read back, whatever follows them. -/
theorem blocks_blocks {fuel : Nat} {b : Bytes} (hpos : 0 < fuel)
    (h : b.length ≤ fuel * longestBlock) (rest : Bytes) :
    ∀ fuel' out, fuel ≤ fuel' →
      blocks fuel' (Bits.ofBytes (Deflate.blocks fuel b ++ rest)) out =
        .ok (Bits.ofBytes rest, out ++ b.toArray) := by
  refine Bytes.pieces_induction (motive := fun fuel b => ∀ fuel' out, fuel ≤ fuel' →
    blocks fuel' (Bits.ofBytes (Deflate.blocks fuel b ++ rest)) out =
      .ok (Bits.ofBytes rest, out ++ b.toArray)) ?_ ?_ hpos h
  · intro fuel b hfits fuel' out hfuel
    obtain ⟨fuel', rfl⟩ : ∃ k, fuel' = k + 1 := ⟨fuel' - 1, by omega⟩
    rw [Deflate.blocks, if_pos hfits, blocks_block hfits]
    rfl
  · intro fuel b hlong ih fuel' out hfuel
    obtain ⟨fuel', rfl⟩ : ∃ k, fuel' = k + 1 := ⟨fuel' - 1, by omega⟩
    have hfront : (b.take longestBlock).length ≤ longestBlock := List.length_take_le ..
    have hwhole : (b.take longestBlock).toArray ++ (b.drop longestBlock).toArray = b.toArray := by
      rw [List.append_toArray, List.take_append_drop]
    rw [Deflate.blocks, if_neg (Nat.not_le.2 hlong), List.append_assoc, blocks_block hfront,
      if_neg Bool.false_ne_true, ih fuel' _ (Nat.le_of_succ_le_succ hfuel), Array.append_assoc, hwhole]

/-- **A stream is read back as it was written.** -/
theorem unpack_pack (b : Bytes) : unpack (Deflate.pack b) = .ok b.toArray := by
  have hfits := Bytes.length_le_pieces b (show 0 < longestBlock by decide)
  have hlong := Deflate.length_le_blocks (Nat.succ_pos _) hfits
  generalize hblocks : Deflate.blocks (b.length / longestBlock + 1) b = packed at hlong
  have hpack : Deflate.pack b = 0x78 :: 0x01 :: (packed ++ Bytes.ofNatBE 4 (Checksum.adler32 b)) := by
    unfold Deflate.pack
    rw [hblocks]
    rfl
  have hfuel : b.length / longestBlock + 1 ≤
      8 * (packed ++ Bytes.ofNatBE 4 (Checksum.adler32 b)).length + 1 := by
    have hquot := Nat.div_le_self b.length longestBlock
    rw [List.length_append]
    omega
  have hread := blocks_blocks (Nat.succ_pos _) hfits (Bytes.ofNatBE 4 (Checksum.adler32 b)) _ #[]
    hfuel
  rw [hblocks] at hread
  have hheader : (!isHeader 0x78 0x01) = false := by decide
  have hsum : ¬ (Bits.ofBytes (Bytes.ofNatBE 4 (Checksum.adler32 b))).align.length < 4 := by
    show ¬ (Bytes.ofNatBE 4 (Checksum.adler32 b)).length < 4
    rw [Bytes.length_ofNatBE]
    exact Nat.lt_irrefl 4
  rw [hpack, unpack, hheader]
  simp only [Bool.false_eq_true, if_false, hread, bind, Except.bind, hsum]
  rw [Array.empty_append]
  rfl

end Inflate

end Cutout
