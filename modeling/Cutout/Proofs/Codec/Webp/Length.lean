import Cutout.Proofs.Codec.Webp.Price
import Cutout.Proofs.Codec.Webp.Residue
import Mathlib.Data.List.MinMax

/-!
# How long pictures are

A number of a block takes at most seventy bits (`numberPrice_le`), and with it a square less than four
kilobytes (`costs_square`), so that what is left of the largest picture still has a length of four
bytes (`length_write_rest`).

The part in front of the squares has to be much shorter. There the price of single decisions would not
do: two plans take at most seven bits, whatever the range is before them (`scale_after_modes`), and so
the part is short enough for the three bytes that its length has (`length_write_modes`).
-/

namespace Cutout.Webp.Lossy

open Cutout.Webp.Lossy.Interval

/-! ## Numbers -/

theorem likelihood_lt (k : Kind) (place context decision : Nat) :
    likelihood tokenTable k place context decision < 256 := by
  have hall : ∀ x ∈ tokenTable.toList, x < 256 := by decide +kernel
  unfold likelihood
  generalize ((k.index * 8 + band place) * 3 + context) * 11 + decision = i
  rw [Array.getD_eq_getD_getElem?, ← Array.getElem?_toList]
  cases hi : tokenTable.toList[i]? with
  | none => exact show 128 < 256 by decide
  | some x => exact hall x (List.mem_of_getElem? hi)

/-- The most bits that a large size takes behind the decision that it is one. -/
def largePrice (p : Nat → Nat) (s : Nat × List (Nat × Bool) × List Nat) : Nat :=
  (s.2.1.map fun d => price (p d.1)).sum + (s.2.2.map price).sum

/-- The most bits that the size of a number takes. -/
def sizePrice (p : Nat → Nat) : Nat :=
  price (p 2) + price (p 3) +
    max (price (p 4) + price (p 5)) ((largeSizes.map (largePrice p)).foldr max 0)

/-- The most bits that a number takes. -/
def numberPrice (p : Nat → Nat) : Nat :=
  price (p 0) + price (p 1) + sizePrice p + price 128

/-- A table whose rows have eleven entries, from each of its rows on. -/
def rowsOf : (count : Nat) → List Nat → List (List Nat)
  | 0, _ => []
  | count + 1, l => l :: rowsOf count (l.drop 11)

theorem drop_mem_rowsOf {count i : Nat} (h : i < count) (l : List Nat) :
    l.drop (i * 11) ∈ rowsOf count l := by
  induction count generalizing i l with
  | zero => exact absurd h (Nat.not_lt_zero i)
  | succ count ih =>
    rw [rowsOf, List.mem_cons]
    cases i with
    | zero => exact .inl (by simp)
    | succ i =>
      have hnext := ih (Nat.lt_of_succ_lt_succ h) (l.drop 11)
      rw [List.drop_drop, Nat.add_comm, ← Nat.succ_mul] at hnext
      exact .inr hnext

theorem band_lt (place : Nat) : band place < 8 := by
  unfold band
  split <;> decide

theorem Kind.index_lt (k : Kind) : k.index < 4 := by
  cases k <;> decide

/-- In every row of the table, numbers take at most seventy bits. -/
theorem numberPrice_le (k : Kind) (place : Nat) {context : Nat} (h : context < 3) :
    numberPrice (likelihood tokenTable k place context) ≤ 70 := by
  have hall : (rowsOf 96 tokenTable.toList).all
      (fun row => numberPrice (fun d => row.getD d 128) ≤ 70) = true := by decide +kernel
  have hrow : (k.index * 8 + band place) * 3 + context < 96 := by
    have hband := band_lt place
    have hindex := k.index_lt
    omega
  have hmem := drop_mem_rowsOf hrow tokenTable.toList
  have hlikelihood : likelihood tokenTable k place context = fun d =>
      (tokenTable.toList.drop (((k.index * 8 + band place) * 3 + context) * 11)).getD d 128 := by
    funext d
    unfold likelihood
    rw [Array.getD_eq_getD_getElem?, ← Array.getElem?_toList, List.getD_eq_getElem?_getD,
      List.getElem?_drop]
  rw [hlikelihood]
  exact of_decide_eq_true (List.all_eq_true.1 hall _ hmem)

/-! ### What numbers cost -/

theorem costs_furtherBits (n : Nat) {odds : List Nat} (h : ∀ p ∈ odds, p < 256) :
    Costs (furtherBits n odds) (odds.map price).sum := by
  induction odds with
  | nil => exact .nil
  | cons p ps ih =>
    have hrest := ih fun q hq => h q (List.mem_cons_of_mem _ hq)
    rw [List.map_cons, List.sum_cons]
    exact .cons (h p List.mem_cons_self) _ hrest

variable {p : Nat → Nat}

theorem costs_path (hp : ∀ d, p d < 256) (path : List (Nat × Bool)) :
    Costs (path.map fun d => ⟨p d.1, d.2⟩) (path.map fun d => price (p d.1)).sum := by
  induction path with
  | nil => exact .nil
  | cons d path ih =>
    rw [List.map_cons, List.map_cons, List.sum_cons]
    exact .cons (hp d.1) d.2 ih

theorem costs_size (hp : ∀ d, p d < 256) {n : Nat} (h : 0 < n) : Costs (size p n) (sizePrice p) := by
  by_cases hlarge : 4 < n
  · obtain ⟨s, hs, -, hsize⟩ := exists_largeSize p hlarge
    have hodds : ∀ s ∈ largeSizes, ∀ q ∈ s.2.2, q < 256 := by decide +kernel
    have hdecisions := (costs_path hp s.2.1).append (costs_furtherBits (n - s.1) (hodds s hs))
    have hmax : largePrice p s ≤ (largeSizes.map (largePrice p)).foldr max 0 :=
      List.le_max_of_le (List.mem_map_of_mem hs) (Nat.le_refl _)
    rw [hsize]
    refine (Costs.cons (hp 2) true (.cons (hp 3) true hdecisions)).mono ?_
    show price (p 2) + (price (p 3) + largePrice p s) ≤ sizePrice p
    unfold sizePrice
    omega
  · have hcases : n = 1 ∨ n = 2 ∨ n = 3 ∨ n = 4 := by omega
    unfold sizePrice
    rcases hcases with rfl | rfl | rfl | rfl
    · refine (Costs.single (hp 2) false).mono ?_
      omega
    · refine (Costs.cons (hp 2) true (.cons (hp 3) false (.single (hp 4) false))).mono ?_
      omega
    · refine (Costs.cons (hp 2) true (.cons (hp 3) false (.cons (hp 4) true
        (.single (hp 5) false)))).mono ?_
      omega
    · refine (Costs.cons (hp 2) true (.cons (hp 3) false (.cons (hp 4) true
        (.single (hp 5) true)))).mono ?_
      omega

/-! ## Blocks -/

/-- The numbers of a block take at most seventy bits each, and their end seven. -/
theorem costs_tokensFrom (k : Kind) (place : Nat) {context : Nat} (h : context < 3)
    (afterZero : Bool) (vs : List Int) :
    Costs (tokensFrom k place context afterZero vs) (vs.length * 70 + 7) := by
  induction vs generalizing place context afterZero with
  | nil =>
    rw [tokensFrom]
    split
    · exact Costs.nil.mono (Nat.zero_le _)
    · have hprice := price_le (likelihood tokenTable k place context 0)
      refine (Costs.single (likelihood_lt ..) false).mono ?_
      rw [List.length_nil]
      omega
  | cons v vs ih =>
    have hp : ∀ d, likelihood tokenTable k place context d < 256 := likelihood_lt k place context
    have hnumber := numberPrice_le k place h
    have hrest := ih (place + 1) (show contextAfter v < 3 by unfold contextAfter; omega) (v = 0)
    rw [tokensFrom]
    generalize likelihood tokenTable k place context = p at *
    have hmore : Costs (if afterZero then [] else [⟨p 0, true⟩]) (price (p 0)) := by
      split
      · exact Costs.nil.mono (Nat.zero_le _)
      · exact .single (hp 0) true
    have hvalue : Costs (if v = 0 then [⟨p 1, false⟩]
        else ⟨p 1, true⟩ :: (size p v.natAbs ++ [.even (v < 0)]))
        (price (p 1) + (sizePrice p + price 128)) := by
      split
      · exact (Costs.single (hp 1) false).mono (Nat.le_add_right ..)
      · next hv =>
        have hsize := costs_size hp (Int.natAbs_pos.2 hv)
        exact .cons (hp 1) true (hsize.append (.single (by decide) _))
    refine ((hmore.append hvalue).append hrest).mono ?_
    unfold numberPrice at hnumber
    rw [List.length_cons]
    omega

/-- The most bits that a block takes. -/
def blockPrice : Nat := 16 * 70 + 7

theorem costs_tokens (k : Kind) (above left : Bool) (b : Block) :
    Costs (tokens k above left b).1 blockPrice := by
  have hroom := (sequence_spec k b).1
  have hcontext : above.toNat + left.toNat < 3 := by
    cases above <;> cases left <;> decide
  refine (costs_tokensFrom k k.begin hcontext false (sequence k b)).mono ?_
  unfold blockPrice
  omega

theorem costs_rowTokens (k : Kind) (above : List Bool) (left : Bool) (bs : List Block) :
    Costs (rowTokens k above left bs).1 (bs.length * blockPrice) := by
  induction bs generalizing above left with
  | nil => exact Costs.nil.mono (Nat.zero_le _)
  | cons b bs ih =>
    have hblock := costs_tokens k (above.headD false) left b
    have hrest := ih above.tail (tokens k (above.headD false) left b).2
    rw [List.length_cons]
    exact hblock.append_mul hrest

theorem costs_gridTokens (k : Kind) {n : Nat} (above left : List Bool) {rows : List (List Block)}
    (h : ∀ row ∈ rows, row.length = n) :
    Costs (gridTokens k above left rows).1 (rows.length * (n * blockPrice)) := by
  induction rows generalizing above left with
  | nil => exact Costs.nil.mono (Nat.zero_le _)
  | cons row rows ih =>
    have hrow := costs_rowTokens k above (left.headD false) row
    have hrest := ih (rowTokens k above (left.headD false) row).2 left.tail
      fun q hq => h q (List.mem_cons_of_mem _ hq)
    rw [h row List.mem_cons_self] at hrow
    rw [List.length_cons]
    exact hrow.append_mul hrest

theorem costs_squareGrid (k : Kind) (above left : List Bool) {n : Nat} {rows : List (List Block)}
    (h : IsGrid n rows) : Costs (gridTokens k above left rows).1 (n * (n * blockPrice)) := by
  have hgrid := costs_gridTokens k above left h.width
  rwa [h.height] at hgrid

/-! ## Squares -/

/-- The most bits that a square takes: the blocks of the brightness and one with their first strengths,
and those of the colours. -/
def squarePrice : Nat := 25 * blockPrice

theorem costs_colorPart (above left : Option Edge) (sample : Nat → Nat → Int) :
    Costs (colorPart above left sample).decisions (4 * blockPrice) := by
  obtain ⟨rows, hrows, hdecisions, -, -⟩ := colorPart_eq above left sample
  rw [hdecisions]
  exact costs_squareGrid .color _ _ hrows

theorem costs_lightPart (above left : Option Edge) (aboveSteady leftSteady : Bool)
    (sample : Nat → Nat → Int) :
    Costs (lightPart above left aboveSteady leftSteady sample).1.decisions (17 * blockPrice) := by
  obtain ⟨first, rows, hrows, -, hdecisions, -, -⟩ :=
    lightPart_eq above left aboveSteady leftSteady sample
  rw [hdecisions]
  exact (costs_tokens .steady aboveSteady leftSteady first).append (costs_squareGrid .changing _ _ hrows)

theorem costs_square (r : Raster (Rgba UInt8)) (column row : Nat) (above left : Option Edges) :
    Costs (square r column row above left).1 squarePrice := by
  have hlight := costs_lightPart (above.map Edges.light) (left.map Edges.light)
    ((above.map Edges.steady).getD false) ((left.map Edges.steady).getD false)
    fun x y => brightness (edgePixel r (16 * column + x) (16 * row + y))
  have hblue := costs_colorPart (above.map Edges.blue) (left.map Edges.blue)
    fun x y => blueness (fourPixels r (8 * column + x) (8 * row + y))
  have hred := costs_colorPart (above.map Edges.red) (left.map Edges.red)
    fun x y => redness (fourPixels r (8 * column + x) (8 * row + y))
  exact (hlight.append hblue).append hred

theorem costs_rowSquares (r : Raster (Rgba UInt8)) (row count column : Nat) (above : List Edges)
    (left : Option Edges) :
    Costs (rowSquares r row count column above left).1.flatten (count * squarePrice) := by
  induction count generalizing column above left with
  | zero => exact Costs.nil.mono (Nat.zero_le _)
  | succ count ih =>
    have hsquare := costs_square r column row above.head? left
    rw [rowSquares]
    generalize square r column row above.head? left = here at *
    obtain ⟨ds, lower, right⟩ := here
    exact hsquare.append_mul (ih (column + 1) above.tail (some right))

theorem costs_allSquares (r : Raster (Rgba UInt8)) (count row : Nat) (above : List Edges) :
    Costs (allSquares r count row above).flatten (count * (squares r.width * squarePrice)) := by
  induction count generalizing row above with
  | zero => exact Costs.nil.mono (Nat.zero_le _)
  | succ count ih =>
    have hrow := costs_rowSquares r row (squares r.width) 0 above none
    rw [allSquares]
    generalize rowSquares r row (squares r.width) 0 above none = here at *
    obtain ⟨all, lowers⟩ := here
    rw [List.flatten_append]
    exact hrow.append_mul (ih (row + 1) lowers)

theorem costs_rest (r : Raster (Rgba UInt8)) :
    Costs (rest r) (squares r.height * (squares r.width * squarePrice)) := by
  rw [rest_eq]
  exact costs_allSquares r (squares r.height) 0 []

/-- The squares of the longest side. -/
theorem squares_le {side : Nat} (h : side ≤ 16383) : squares side ≤ 1024 := by
  unfold squares
  omega

/-- What is left of a picture is short enough for a chunk. -/
theorem length_write_rest {r : Raster (Rgba UInt8)} (hwidth : r.width ≤ 16383)
    (hheight : r.height ≤ 16383) : (Coder.write (rest r)).length < 3700000000 := by
  have hsquares : squares r.height * (squares r.width * squarePrice) ≤ 1024 * (1024 * squarePrice) :=
    Nat.mul_le_mul (squares_le hheight) (Nat.mul_le_mul_right _ (squares_le hwidth))
  have hlength := ((costs_rest r).mono hsquares).length_write_le
  have hprice : squarePrice = 28175 := rfl
  omega

/-! ## Plans -/

theorem isFair_modes (r : Raster (Rgba UInt8)) : ∀ d ∈ modes r, d.IsFair := by
  have hopening : ∀ d ∈ opening, d.first < 256 := by decide +kernel
  have hmode : ∀ d ∈ meanMode, d.first < 256 := by decide
  intro d hd
  rcases List.mem_append.1 hd with hd | hd
  · exact hopening d hd
  · obtain ⟨l, hl, hd⟩ := List.mem_flatten.1 hd
    rw [List.eq_of_mem_replicate hl] at hd
    exact hmode d hd

/-- Two plans take at most seven bits. -/
theorem scale_after_modes {i : Interval} (hi : i.IsFull) (n : Nat) :
    2 * (i.after (List.replicate n meanMode).flatten).scale ≤ 2 * i.scale + 7 * n + 7 := by
  have hone : ∀ range < 256, 128 ≤ range →
      ((⟨0, range, 0⟩ : Interval).after meanMode).scale ≤ 4 := by decide +kernel
  have htwo : ∀ range < 256, 128 ≤ range →
      ((⟨0, range, 0⟩ : Interval).after (meanMode ++ meanMode)).scale ≤ 7 := by decide +kernel
  have hfair : ∀ d ∈ meanMode ++ meanMode, d.IsFair := by
    intro d hd
    exact (show ∀ d ∈ meanMode ++ meanMode, d.first < 256 by decide) d hd
  induction n using Nat.twoStepInduction generalizing i with
  | zero =>
    show 2 * i.scale ≤ _
    omega
  | one =>
    have hbits := scale_after_le_of_ranges hone hi
    show 2 * (i.after meanMode).scale ≤ _
    omega
  | more n ih _ =>
    have hbits := scale_after_le_of_ranges htwo hi
    have hrest := ih (hi.after hfair)
    have hsplit : (List.replicate (n + 2) meanMode).flatten =
        meanMode ++ meanMode ++ (List.replicate n meanMode).flatten := by
      simp only [List.replicate_succ, List.flatten_cons, List.append_assoc]
    rw [hsplit, after_append]
    omega

/-- The part in front of the squares is short enough for its place in the frame. -/
theorem length_write_modes {r : Raster (Rgba UInt8)} (hwidth : r.width ≤ 16383)
    (hheight : r.height ≤ 16383) : (Coder.write (modes r)).length < 524288 := by
  have hopening : Costs opening 8000 := by
    have hprice : (opening.map fun d => price d.first).sum ≤ 8000 := by decide +kernel
    exact ⟨fun d hd => isFair_modes r d (List.mem_append_left _ hd), hprice⟩
  obtain ⟨t, -, ht, -, hlength⟩ := Coder.write_value (isFair_modes r)
  have hsquares : squares r.width * squares r.height ≤ 1024 * 1024 :=
    Nat.mul_le_mul (squares_le hwidth) (squares_le hheight)
  have hfront := hopening.scale_after_le isFull_whole
  have hplans := scale_after_modes (isFull_whole.after hopening.fair)
    (squares r.width * squares r.height)
  have hzero : whole.scale = 0 := rfl
  have hboth : whole.after (modes r) = _ := after_append whole opening _
  rw [hboth] at hlength
  omega

end Cutout.Webp.Lossy
