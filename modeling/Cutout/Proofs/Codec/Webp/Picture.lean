import Cutout.Codec.Webp.Decode
import Cutout.Proofs.Codec.Webp.Chunk
import Cutout.Proofs.Codec.Webp.Head
import Cutout.Proofs.Codec.Webp.Length

/-!
# Lossy pictures are read again

A lossy picture loses colours and nothing else: it is read to the end and has the size that it was
written with (`exists_decode_encode`). Its opacity is stored apart, as it is (`opacity_stored`).
-/

namespace Cutout.Webp

namespace Lossy

/-- A picture whose sides can be written. -/
structure Fits (r : Raster (Rgba UInt8)) : Prop where
  width_pos : 0 < r.width
  height_pos : 0 < r.height
  width_le : r.width ≤ longestSide
  height_le : r.height ≤ longestSide

/-- What is in front of the parts of a picture. -/
def frameOf (r : Raster (Rgba UInt8)) : Frame :=
  ⟨r.width, r.height, (Coder.write (modes r)).length⟩

variable {r : Raster (Rgba UInt8)}

/-- A frame is read as it was written. -/
theorem gives_readFrame (h : Fits r) : Gives readFrame (frameOf r).bytes (frameOf r) := by
  obtain ⟨hwidth, hheight, hwide, hhigh⟩ := h
  have hside : longestSide = 16383 := rfl
  rw [hside] at hwide hhigh
  have hfirst := length_write_modes hwide hhigh
  unfold frameOf Frame.bytes
  generalize (Coder.write (modes r)).length = n at *
  have htag : n * 32 + 16 < Nat.pow 256 3 := by
    show n * 32 + 16 < 16777216
    omega
  have hsides {side : Nat} (h : side ≤ 16383) : side < Nat.pow 256 2 ∧ side % 0x4000 = side := by
    refine ⟨?_, Nat.mod_eq_of_lt (by omega)⟩
    show side < 65536
    omega
  have hmark : sizeMark.length = 3 := rfl
  have hshown : (n * 32 + 16).testBit 0 = false := by
    rw [Nat.testBit_zero, decide_eq_false_iff_not]
    omega
  simp only [List.append_assoc]
  refine (gives_little _ htag).bind ?_
  rw [if_neg (by simp [hshown]), if_neg (by omega)]
  refine (gives_bytes _ hmark).bind ?_
  rw [if_neg (not_not_intro rfl)]
  refine (gives_little _ (hsides hwide).1).bind ((gives_little _ (hsides hhigh).1).bind_last ?_)
  dsimp only
  rw [(hsides hwide).2, (hsides hhigh).2, if_neg (by omega), show (n * 32 + 16) / 32 = n by omega]
  exact .pure _

theorem readFrame_encode (h : Fits r) :
    readFrame (encode r) = .ok (frameOf r, Coder.write (modes r) ++ Coder.write (rest r)) := by
  have hread := gives_readFrame h (Coder.write (modes r) ++ Coder.write (rest r))
  rwa [← List.append_assoc] at hread

/-- The head and the plans are read from the part in front of the squares. -/
theorem exists_readPlanRows (r : Raster (Rgba UInt8)) :
    ∃ d d', readHead (.ofBytes (Coder.write (modes r))) = .ok (plainHead, d) ∧
      readPlanRows plainHead.plans (squares r.height) (List.replicate (squares r.width) outside) d =
        .ok (List.replicate (squares r.height) (List.replicate (squares r.width) plainPlan), d') := by
  have hfollows := follows_write (isFair_modes r)
  obtain ⟨d, hhead, hd⟩ := takes_readHead _ _ hfollows
  have hplans := takes_readPlanRows (squares r.height) (List.replicate (squares r.width) outside)
  rw [List.length_replicate] at hplans
  rw [← List.append_nil (List.flatten _)] at hd
  obtain ⟨d', hrows, -⟩ := hplans d [] hd
  exact ⟨d, d', hhead, hrows⟩

/-- If there is one part, it is all there is. -/
theorem partsOf_one (b : Bytes) : partsOf 1 b = .ok [b] := by
  have hnone : Bytes.take? (3 * (1 - 1)) b = some ([], b) := Bytes.take?_append (a := []) rfl b
  unfold partsOf
  dsimp only
  rw [hnone]
  rfl

/-- **A picture is read to the end**, and it has the size that it was written with. -/
theorem exists_read_encode (h : Fits r) :
    ∃ planes, read (encode r) = .ok ⟨r.width, r.height, planes⟩ := by
  obtain ⟨d, d', hhead, hplans⟩ := exists_readPlanRows r
  obtain ⟨residues, hresidues⟩ := exists_readResidueRows_rest (follows_write (costs_rest r).fair)
  have hwidth : (frameOf r).width = r.width := rfl
  have hheight : (frameOf r).height = r.height := rfl
  have hfirst : Bytes.take? (frameOf r).firstLength (Coder.write (modes r) ++ Coder.write (rest r)) =
      some (Coder.write (modes r), Coder.write (rest r)) := Bytes.take?_append rfl _
  have hparts : partsOf plainHead.parts (Coder.write (rest r)) = .ok [Coder.write (rest r)] :=
    partsOf_one _
  unfold read
  rw [readFrame_encode h]
  simp only [bind, Except.bind, hfirst, hhead, hparts, hwidth, hheight, hplans, List.map_cons,
    List.map_nil, hresidues, pure, Except.pure]
  exact ⟨_, rfl⟩

theorem exists_decode_encode (h : Fits r) :
    ∃ p, decode (encode r) = .ok p ∧ p.width = r.width ∧ p.height = r.height := by
  obtain ⟨planes, hread⟩ := exists_read_encode h
  unfold decode
  rw [hread]
  exact ⟨_, rfl, rfl, rfl⟩

end Lossy

/-! ## Opacity -/

theorem Guess.value_zero (w : Nat) (done : Array UInt8) : Guess.zero.value w done = 0 := by
  unfold value
  dsimp only
  split
  · rfl
  · rfl

/-- Values that are not guessed are their differences. -/
theorem Guess.undo_zero (w : Nat) (values : List UInt8) : Guess.zero.undo w values = values.toArray := by
  unfold undo
  simp only [value_zero, UInt8.add_zero]
  rw [List.foldl_push_eq_append, List.map_id', Array.empty_append]

/-- An opacity that is stored as it is, is read as it is. -/
theorem opacity_stored {w h : Nat} {values : Bytes} (hlength : values.length = w * h) :
    opacity w h (0 :: values) = .ok values.toArray := by
  have hall : Bytes.take? (w * h) values = some (values, []) := by
    have happend := Bytes.take?_append hlength []
    rwa [List.append_nil] at happend
  unfold opacity
  simp only [UInt8.toNat_zero, Nat.zero_div, Nat.zero_mod, Nat.not_lt_zero, if_false, hall]
  exact congrArg Except.ok (Guess.undo_zero w values)

end Cutout.Webp
