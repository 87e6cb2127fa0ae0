import Cutout.Proofs.Codec.Webp.Head

/-!
# What is left of squares is read as it was written

The reader takes the tokens of a block, then of rows and grids of blocks, of a square, and of rows of
squares. It need not find the same numbers again for that: the odds depend on which numbers are zero,
one or more, and on which blocks hold anything, and these it finds as they were. A writer that has no
edge yet and a reader whose edge holds nothing agree (`padded`, `Held.of`).
-/

namespace Cutout.Webp.Lossy

/-! ## Sizes -/

/-- The way through a tree of decisions to a leaf. -/
inductive Tree.Leads {α : Type} (odds : Nat → Nat) : Tree α → List Decision → α → Prop
  | leaf {a : α} : Leads odds (.leaf a) [] a
  | first {n : Nat} {t u : Tree α} {ds : List Decision} {a : α} : Leads odds t ds a →
      Leads odds (.node n t u) (⟨odds n, false⟩ :: ds) a
  | second {n : Nat} {t u : Tree α} {ds : List Decision} {a : α} : Leads odds u ds a →
      Leads odds (.node n t u) (⟨odds n, true⟩ :: ds) a

theorem Tree.Leads.takes {α : Type} {odds : Nat → Nat} {t : Tree α} {ds : List Decision} {a : α}
    (h : t.Leads odds ds a) : Takes (t.read odds) ds a := by
  induction h with
  | leaf => exact .pure _
  | first _ ih => exact (takes_decision _ false).bind ih
  | second _ ih => exact (takes_decision _ true).bind ih

theorem takes_readFurther (odds : List Nat) (n acc : Nat) :
    Takes (readFurther odds acc) (furtherBits n odds)
      (acc * 2 ^ odds.length + n % 2 ^ odds.length) := by
  induction odds generalizing acc with
  | nil =>
    rw [List.length_nil, Nat.pow_zero, Nat.mod_one, Nat.mul_one]
    exact .pure acc
  | cons p ps ih =>
    have hvalue : acc * 2 ^ (p :: ps).length + n % 2 ^ (p :: ps).length =
        (2 * acc + (n.testBit ps.length).toNat) * 2 ^ ps.length + n % 2 ^ ps.length := by
      rw [List.length_cons, Nat.mod_pow_succ, Nat.toNat_testBit, Nat.pow_succ]
      ring
    rw [hvalue]
    exact (takes_decision p (n.testBit ps.length)).bind (ih _)

/-- The tree has a way to each of the large sizes. -/
theorem leads_largeSizes (p : Nat → Nat) {s : Nat × List (Nat × Bool) × List Nat}
    (h : s ∈ largeSizes) :
    sizeTree.Leads p (⟨p 3, true⟩ :: s.2.1.map fun d => ⟨p d.1, d.2⟩) (s.1, s.2.2) := by
  simp only [largeSizes, List.mem_cons, List.not_mem_nil, or_false] at h
  rcases h with rfl | rfl | rfl | rfl | rfl | rfl
  · exact .second (.second (.second (.second .leaf)))
  · exact .second (.second (.second (.first .leaf)))
  · exact .second (.second (.first (.second .leaf)))
  · exact .second (.second (.first (.first .leaf)))
  · exact .second (.first (.second .leaf))
  · exact .second (.first (.first .leaf))

/-- A size of five or more is written as one of the large ones and the bits beyond it. -/
theorem exists_largeSize (p : Nat → Nat) {n : Nat} (h : 4 < n) :
    ∃ s ∈ largeSizes, s.1 ≤ n ∧
      size p n = ⟨p 2, true⟩ :: ((⟨p 3, true⟩ :: s.2.1.map fun d => ⟨p d.1, d.2⟩) ++
        furtherBits (n - s.1) s.2.2) := by
  cases hfind : largeSizes.find? fun s => s.1 ≤ n with
  | none =>
    have hnone := List.find?_eq_none.1 hfind (5, [(6, false), (7, false)], [159])
      (by simp [largeSizes])
    rw [decide_eq_true_eq] at hnone
    omega
  | some s =>
    have hle := List.find?_some hfind
    rw [decide_eq_true_eq] at hle
    refine ⟨s, List.mem_of_find?_eq_some hfind, hle, ?_⟩
    unfold size
    rw [if_neg (by omega), if_neg (by omega), hfind]
    rfl

/-- A size is read, and it is one exactly if it was. -/
theorem takes_readSize (p : Nat → Nat) {n : Nat} (h : 0 < n) :
    ∃ m, Takes (readSize p) (size p n) m ∧ min m 2 = min n 2 := by
  by_cases hlarge : 4 < n
  · obtain ⟨s, hs, hle, hsize⟩ := exists_largeSize p hlarge
    have hleast : ∀ s ∈ largeSizes, 5 ≤ s.1 := by decide +kernel
    have hfive := hleast s hs
    have hfurther := takes_readFurther s.2.2 (n - s.1) 0
    generalize 0 * 2 ^ s.2.2.length + (n - s.1) % 2 ^ s.2.2.length = more at hfurther
    refine ⟨s.1 + more, ?_, ?_⟩
    · rw [hsize]
      exact (takes_decision (p 2) true).bind ((leads_largeSizes p hs).takes.bind hfurther.bind_pure)
    · omega
  · have hcases : n = 1 ∨ n = 2 ∨ n = 3 ∨ n = 4 := by omega
    have hsmall {ds : List Decision} {m : Nat} (hleads : sizeTree.Leads p ds (m, [])) :
        Takes (readSize p) (⟨p 2, true⟩ :: ds) m := by
      exact (takes_decision (p 2) true).bind (hleads.takes.bind_last (Takes.pure 0).bind_pure)
    rcases hcases with rfl | rfl | rfl | rfl
    · exact ⟨1, (takes_decision (p 2) false).bind (.pure 1), rfl⟩
    · exact ⟨2, hsmall (.first (.first .leaf)), rfl⟩
    · exact ⟨3, hsmall (.first (.second (.first .leaf))), rfl⟩
    · exact ⟨4, hsmall (.first (.second (.second .leaf))), rfl⟩

/-! ## Blocks -/

/-- The numbers of a block end with one that is not zero. -/
def EndsFull (vs : List Int) : Prop :=
  ∀ v, vs.getLast? = some v → v ≠ 0

theorem EndsFull.tail {v : Int} {vs : List Int} (h : EndsFull (v :: vs)) : EndsFull vs := by
  intro w hw
  refine h w ?_
  rw [List.getLast?_cons, hw]
  rfl

theorem EndsFull.tail_ne_nil {vs : List Int} (h : EndsFull (0 :: vs)) : vs ≠ [] := by
  rintro rfl
  exact h 0 rfl rfl

theorem contextAfter_eq {v w : Int} (h : min v.natAbs 2 = min w.natAbs 2) :
    contextAfter v = contextAfter w :=
  h

/-- The decision that there are more numbers; behind a zero it is not made. -/
def goesOn (k : Kind) (place context : Nat) (afterZero : Bool) : List Decision :=
  if afterZero then [] else [⟨likelihood tokenTable k place context 0, true⟩]

section

variable {k : Kind} {fuel place context : Nat} {afterZero : Bool} {done all : List Int}
  {ds : List Decision}

theorem takes_readTokens_end (hfuel : 16 ≤ fuel + place) (hplace : place ≤ 16) :
    Takes (readTokens tokenTable k fuel place context false done)
      (if place = 16 then [] else [⟨likelihood tokenTable k place context 0, false⟩]) done := by
  cases fuel with
  | zero =>
    have hlast : place = 16 := by omega
    rw [if_pos hlast]
    exact .pure done
  | succ fuel =>
    rw [readTokens]
    by_cases hlast : place = 16
    · rw [if_pos hlast, if_pos (by omega)]
      exact .pure done
    · rw [if_neg hlast, if_neg (by omega)]
      exact (takes_decision _ false).bind (.pure done)

theorem takes_readTokens_zero (hplace : place < 16)
    (h : Takes (readTokens tokenTable k fuel (place + 1) 0 true (0 :: done)) ds all) :
    Takes (readTokens tokenTable k (fuel + 1) place context afterZero done)
      (goesOn k place context afterZero ++
        (⟨likelihood tokenTable k place context 1, false⟩ :: ds)) all := by
  rw [readTokens, if_neg (by omega)]
  cases afterZero with
  | false => exact (takes_decision _ true).bind ((takes_decision _ false).bind h)
  | true => exact (Takes.pure true).bind ((takes_decision _ false).bind h)

/-- A number that is not zero is read as one that changes the context in the same way. -/
theorem takes_readTokens_some (k : Kind) (fuel context : Nat) (afterZero : Bool) (done : List Int)
    (hplace : place < 16) {v : Int} (hv : v ≠ 0) :
    ∃ w, contextAfter w = contextAfter v ∧ ∀ ds all,
      Takes (readTokens tokenTable k fuel (place + 1) (contextAfter w) false (w :: done)) ds all →
      Takes (readTokens tokenTable k (fuel + 1) place context afterZero done)
        (goesOn k place context afterZero ++
          (⟨likelihood tokenTable k place context 1, true⟩ ::
            (size (likelihood tokenTable k place context) v.natAbs ++ (.even (v < 0) :: ds)))) all := by
  obtain ⟨m, hm, hmin⟩ :=
    takes_readSize (likelihood tokenTable k place context) (Int.natAbs_pos.2 hv)
  refine ⟨if decide (v < 0) then -m else m, ?_, ?_⟩
  · refine contextAfter_eq ?_
    split
    · rw [Int.natAbs_neg, Int.natAbs_natCast, hmin]
    · rw [Int.natAbs_natCast, hmin]
  · intro ds all h
    rw [readTokens, if_neg (by omega)]
    cases afterZero with
    | false =>
      exact (takes_decision _ true).bind ((takes_decision _ true).bind
        (hm.bind ((takes_evenDecision _).bind h)))
    | true =>
      exact (Takes.pure true).bind ((takes_decision _ true).bind
        (hm.bind ((takes_evenDecision _).bind h)))

end

/-- The tokens of numbers are taken, and as many numbers are found. -/
theorem takes_readTokens (k : Kind) (fuel place context : Nat) (afterZero : Bool) (done vs : List Int)
    (hfuel : 16 ≤ fuel + place) (hplace : place + vs.length ≤ 16) (hends : EndsFull vs)
    (hzero : afterZero = true → vs ≠ []) :
    ∃ all, all.length = vs.length + done.length ∧
      Takes (readTokens tokenTable k fuel place context afterZero done)
        (tokensFrom k place context afterZero vs) all := by
  induction vs generalizing fuel place context afterZero done with
  | nil =>
    have hafter : afterZero = false := by
      cases afterZero with
      | false => rfl
      | true => exact absurd rfl (hzero rfl)
    subst hafter
    rw [tokensFrom]
    exact ⟨done, by simp, takes_readTokens_end hfuel hplace⟩
  | cons v vs ih =>
    rw [List.length_cons] at hplace
    obtain ⟨fuel, rfl⟩ : ∃ f, fuel = f + 1 := ⟨fuel - 1, by omega⟩
    have hlt : place < 16 := by omega
    by_cases hv : v = 0
    · subst hv
      obtain ⟨all, hlength, hrest⟩ := ih fuel (place + 1) 0 true (0 :: done) (by omega) (by omega)
        hends.tail fun _ => hends.tail_ne_nil
      refine ⟨all, by rw [hlength, List.length_cons, List.length_cons]; omega, ?_⟩
      rw [tokensFrom, List.append_assoc]
      exact takes_readTokens_zero hlt hrest
    · obtain ⟨w, hcontext, hsome⟩ := takes_readTokens_some k fuel context afterZero done hlt hv
      obtain ⟨all, hlength, hrest⟩ := ih fuel (place + 1) (contextAfter w) false (w :: done)
        (by omega) (by omega) hends.tail nofun
      refine ⟨all, by rw [hlength, List.length_cons, List.length_cons]; omega, ?_⟩
      have htaken := hsome _ _ hrest
      rw [hcontext] at htaken
      have hfalse : decide (v = 0) = false := decide_eq_false hv
      rw [tokensFrom, if_neg hv, hfalse]
      simp only [List.append_assoc, List.cons_append, List.nil_append]
      exact htaken

/-- The numbers that are written of a block: there is room for them, and the last one is not zero. -/
theorem sequence_spec (k : Kind) (b : Block) :
    k.begin + (sequence k b).length ≤ 16 ∧ EndsFull (sequence k b) := by
  have hbegin : k.begin ≤ 1 := by cases k <;> decide
  have hall : ((diagonals.drop k.begin).map fun i => b.getD i 0).length = 16 - k.begin := by
    rw [List.length_map, List.length_drop]
    rfl
  unfold sequence
  generalize (diagonals.drop k.begin).map (fun i => b.getD i 0) = vs at *
  constructor
  · have hle := (List.dropWhile_sublist (fun v : Int => v == 0) (l := vs.reverse)).length_le
    rw [List.length_reverse] at hle
    rw [List.length_reverse]
    omega
  · intro v hv
    rw [List.getLast?_reverse] at hv
    have hhead := List.head?_dropWhile_not (fun v : Int => v == 0) vs.reverse
    rw [hv] at hhead
    simpa using hhead

/-- A block is read, and it is found to hold something exactly if it does. -/
theorem takes_readBlock (k : Kind) (s : Steps) (above left : Bool) (b : Block) :
    ∃ block, Takes (readBlock tokenTable k s above left) (tokens k above left b).1
      (block, (tokens k above left b).2) := by
  obtain ⟨hroom, hends⟩ := sequence_spec k b
  obtain ⟨all, hlength, htaken⟩ := takes_readTokens k 16 k.begin (above.toNat + left.toNat) false []
    (sequence k b) (by omega) hroom hends nofun
  rw [List.length_nil, Nat.add_zero] at hlength
  have hsame : all.isEmpty = (sequence k b).isEmpty := by
    rw [Bool.eq_iff_iff, List.isEmpty_iff, List.isEmpty_iff, ← List.length_eq_zero_iff, hlength,
      List.length_eq_zero_iff]
  have hfull : (tokens k above left b).2 = !all.isEmpty := by
    rw [hsame]
    rfl
  rw [hfull]
  cases hempty : all.isEmpty with
  | true =>
    refine ⟨[], htaken.bind_last ?_⟩
    rw [if_pos hempty]
    exact .pure _
  | false =>
    refine ⟨s.multiply (unsequence (List.replicate k.begin 0 ++ all.reverse).toArray),
      htaken.bind_last ?_⟩
    rw [if_neg (by simp [hempty])]
    exact .pure _

/-! ## Rows and grids of blocks -/

/-- What a reader knows of `n` blocks at an edge where the writer knows of some: the others hold
nothing. -/
def padded : Nat → List Bool → List Bool
  | 0, _ => []
  | n + 1, full => full.headD false :: padded n full.tail

theorem padded_length (full : List Bool) : padded full.length full = full := by
  induction full with
  | nil => rfl
  | cons f full ih =>
    rw [List.length_cons, padded, List.tail_cons, ih]
    rfl

theorem length_rowTokens (k : Kind) (above : List Bool) (left : Bool) (bs : List Block) :
    (rowTokens k above left bs).2.length = bs.length := by
  induction bs generalizing above left with
  | nil => rfl
  | cons b bs ih =>
    have hrest := ih above.tail (tokens k (above.headD false) left b).2
    exact congrArg Nat.succ hrest

theorem length_gridTokens (k : Kind) (above left : List Bool) (rows : List (List Block)) :
    (gridTokens k above left rows).2.2.length = rows.length := by
  induction rows generalizing above left with
  | nil => rfl
  | cons row rows ih =>
    have hrest := ih (rowTokens k above (left.headD false) row).2 left.tail
    exact congrArg Nat.succ hrest

theorem takes_readRow (k : Kind) (s : Steps) (above : List Bool) (left : Bool) (bs : List Block) :
    ∃ blocks, Takes (readRow (readBlock tokenTable k s) (padded bs.length above) left)
      (rowTokens k above left bs).1 (blocks, (rowTokens k above left bs).2) := by
  induction bs generalizing above left with
  | nil => exact ⟨[], .pure _⟩
  | cons b bs ih =>
    obtain ⟨block, hblock⟩ := takes_readBlock k s (above.headD false) left b
    obtain ⟨blocks, hrest⟩ := ih above.tail (tokens k (above.headD false) left b).2
    exact ⟨block :: blocks, hblock.bind hrest.bind_pure⟩

/-- A grid is read, with what its last row and the ends of its rows hold. -/
theorem takes_readGrid (k : Kind) (s : Steps) {n : Nat} (above left : List Bool)
    {rows : List (List Block)} (hrows : ∀ row ∈ rows, row.length = n) :
    ∃ blocks, Takes (readGrid (readBlock tokenTable k s) (padded n above) (padded rows.length left))
      (gridTokens k above left rows).1
      (blocks, padded n (gridTokens k above left rows).2.1, (gridTokens k above left rows).2.2) := by
  induction rows generalizing above left with
  | nil => exact ⟨[], .pure _⟩
  | cons row rows ih =>
    have hn := hrows row List.mem_cons_self
    obtain ⟨bs, hrow⟩ := takes_readRow k s above (left.headD false) row
    have hfulls := padded_length (rowTokens k above (left.headD false) row).2
    rw [length_rowTokens, hn] at hfulls
    obtain ⟨blocks, hrest⟩ := ih (rowTokens k above (left.headD false) row).2 left.tail
      fun q hq => hrows q (List.mem_cons_of_mem _ hq)
    rw [hn] at hrow
    rw [hfulls] at hrest
    exact ⟨bs ++ blocks, hrow.bind hrest.bind_pure⟩

/-! ## Squares -/

/-- What a reader knows of an edge of a square. -/
def Held.of (e : Option Edges) : Held where
  light := padded 4 (fullOf (e.map Edges.light))
  blue := padded 2 (fullOf (e.map Edges.blue))
  red := padded 2 (fullOf (e.map Edges.red))
  steady := (e.map Edges.steady).getD false

/-- There are as many rows of blocks as there are blocks in a row. -/
structure IsGrid (n : Nat) (rows : List (List Block)) : Prop where
  height : rows.length = n
  width : ∀ row ∈ rows, row.length = n

theorem isGrid_differences (n : Nat) (guess : Int) (sample : Nat → Nat → Int) :
    IsGrid n (differences n guess sample) := by
  refine ⟨by simp [differences], ?_⟩
  intro row hrow
  simp only [differences, List.mem_map] at hrow
  obtain ⟨_, -, rfl⟩ := hrow
  simp

theorem IsGrid.map {n : Nat} {rows : List (List Block)} (h : IsGrid n rows) (f : Block → Block) :
    IsGrid n (rows.map fun row => row.map f) := by
  refine ⟨by rw [List.length_map, h.height], ?_⟩
  intro row hrow
  obtain ⟨inner, hinner, rfl⟩ := List.mem_map.1 hrow
  rw [List.length_map, h.width inner hinner]

/-- A square grid is read, and what is found at its edges is known of them. -/
theorem takes_squareGrid (k : Kind) (s : Steps) (above left : List Bool) {n : Nat}
    {rows : List (List Block)} (h : IsGrid n rows) :
    ∃ blocks, Takes (readGrid (readBlock tokenTable k s) (padded n above) (padded n left))
      (gridTokens k above left rows).1
      (blocks, padded n (gridTokens k above left rows).2.1,
        padded n (gridTokens k above left rows).2.2) := by
  obtain ⟨blocks, hgrid⟩ := takes_readGrid k s above left h.width
  have hends := padded_length (gridTokens k above left rows).2.2
  rw [length_gridTokens, h.height] at hends
  rw [h.height] at hgrid
  rw [hends]
  exact ⟨blocks, hgrid⟩

/-- A colour difference is written as the tokens of its blocks. -/
theorem colorPart_eq (above left : Option Edge) (sample : Nat → Nat → Int) :
    ∃ rows, IsGrid 2 rows ∧
      (colorPart above left sample).decisions =
        (gridTokens .color (fullOf above) (fullOf left) rows).1 ∧
      (colorPart above left sample).lower.full =
        (gridTokens .color (fullOf above) (fullOf left) rows).2.1 ∧
      (colorPart above left sample).right.full =
        (gridTokens .color (fullOf above) (fullOf left) rows).2.2 := by
  unfold colorPart
  generalize meanOf (above.map Edge.samples) (left.map Edge.samples) = guess
  generalize (fun b : Block => steps.color.divide (frequencies b)) = divide
  exact ⟨_, (isGrid_differences 2 guess sample).map divide, rfl, rfl, rfl⟩

theorem Held.of_some (e : Edges) :
    Held.of (some e) =
      ⟨padded 4 e.light.full, padded 2 e.blue.full, padded 2 e.red.full, e.steady⟩ :=
  rfl

theorem takes_colorPart (s : Steps) (above left : Option Edge) (sample : Nat → Nat → Int) :
    ∃ blocks, Takes (readGrid (readBlock tokenTable .color s) (padded 2 (fullOf above))
        (padded 2 (fullOf left)))
      (colorPart above left sample).decisions
      (blocks, padded 2 (colorPart above left sample).lower.full,
        padded 2 (colorPart above left sample).right.full) := by
  obtain ⟨rows, hrows, hdecisions, hlower, hright⟩ := colorPart_eq above left sample
  rw [hdecisions, hlower, hright]
  exact takes_squareGrid .color s (fullOf above) (fullOf left) hrows

/-- The brightness is written as the tokens of its first strengths and of its blocks. -/
theorem lightPart_eq (above left : Option Edge) (aboveSteady leftSteady : Bool)
    (sample : Nat → Nat → Int) :
    let part := lightPart above left aboveSteady leftSteady sample
    ∃ first rows, IsGrid 4 rows ∧ part.2 = (tokens .steady aboveSteady leftSteady first).2 ∧
      part.1.decisions = (tokens .steady aboveSteady leftSteady first).1 ++
        (gridTokens .changing (fullOf above) (fullOf left) rows).1 ∧
      part.1.lower.full = (gridTokens .changing (fullOf above) (fullOf left) rows).2.1 ∧
      part.1.right.full = (gridTokens .changing (fullOf above) (fullOf left) rows).2.2 := by
  intro part
  unfold part lightPart
  dsimp only
  generalize meanOf (above.map Edge.samples) (left.map Edge.samples) = guess
  have hgrid := ((isGrid_differences 4 guess sample).map frequencies).map steps.light.divide
  generalize (differences 4 guess sample).map (fun row => row.map frequencies) = strengths at *
  generalize strengths.map (fun row => row.map steps.light.divide) = rows at *
  generalize steps.steady.divide (steady (firsts strengths)) = first
  exact ⟨first, rows, hgrid, rfl, rfl, rfl, rfl⟩

theorem takes_lightPart (s : SquareSteps) (m : Mode) (above left : Option Edges)
    (sample : Nat → Nat → Int) :
    let part := lightPart (above.map Edges.light) (left.map Edges.light)
      ((above.map Edges.steady).getD false) ((left.map Edges.steady).getD false) sample
    ∃ blocks, Takes (readLight tokenTable s (.whole m) (.of above) (.of left)) part.1.decisions
      (blocks, part.2, padded 4 part.1.lower.full, padded 4 part.1.right.full) := by
  intro part
  obtain ⟨first, rows, hrows, hfull, hdecisions, hlower, hright⟩ :=
    lightPart_eq (above.map Edges.light) (left.map Edges.light)
      ((above.map Edges.steady).getD false) ((left.map Edges.steady).getD false) sample
  obtain ⟨block, hblock⟩ := takes_readBlock .steady s.steady ((above.map Edges.steady).getD false)
    ((left.map Edges.steady).getD false) first
  obtain ⟨blocks, hgrid⟩ := takes_squareGrid .changing s.light (fullOf (above.map Edges.light))
    (fullOf (left.map Edges.light)) hrows
  rw [hdecisions, hfull, hlower, hright]
  exact ⟨_, hblock.bind hgrid.bind_pure⟩

/-- A square is read, and its edges are known to the reader as they are to the writer. -/
theorem takes_readResidue (r : Raster (Rgba UInt8)) (column row : Nat) (above left : Option Edges) :
    ∃ residue, Takes (readResidue plainHead plainPlan (.of above) (.of left))
      (square r column row above left).1
      (residue, .of (square r column row above left).2.1,
        .of (square r column row above left).2.2) := by
  obtain ⟨light, hlight⟩ := takes_lightPart (plainHead.stepsOf 0) .mean above left
    fun x y => brightness (edgePixel r (16 * column + x) (16 * row + y))
  obtain ⟨blue, hblue⟩ := takes_colorPart (plainHead.stepsOf 0).color (above.map Edges.blue)
    (left.map Edges.blue) fun x y => blueness (fourPixels r (8 * column + x) (8 * row + y))
  obtain ⟨red, hred⟩ := takes_colorPart (plainHead.stepsOf 0).color (above.map Edges.red)
    (left.map Edges.red) fun x y => redness (fourPixels r (8 * column + x) (8 * row + y))
  have hsome : ¬ plainPlan.isEmpty = true := Bool.false_ne_true
  refine ⟨⟨light, blue, red⟩, ?_⟩
  unfold readResidue square
  dsimp only at hlight ⊢
  rw [if_neg hsome, List.append_assoc, Held.of_some, Held.of_some]
  -- what the parts are made of does not matter any more
  generalize lightPart (above.map Edges.light) (left.map Edges.light)
    ((above.map Edges.steady).getD false) ((left.map Edges.steady).getD false) _ = lightPart at *
  generalize colorPart (above.map Edges.blue) (left.map Edges.blue) _ = bluePart at *
  generalize colorPart (above.map Edges.red) (left.map Edges.red) _ = redPart at *
  exact hlight.bind (hblue.bind hred.bind_pure)

/-! ## Rows of squares -/

/-- The reader knows of the squares above what the writer does. -/
def Agrees (held : List Held) (above : List Edges) : Prop :=
  ∀ i : Nat, (held[i]?).getD .nothing = .of above[i]?

theorem agrees_map (above : List Edges) : Agrees (above.map fun e => .of (some e)) above := by
  intro i
  rw [List.getElem?_map]
  cases above[i]? <;> rfl

theorem agrees_nothing (n : Nat) : Agrees (List.replicate n .nothing) [] := by
  intro i
  rw [List.getElem?_replicate]
  split <;> rfl

theorem Agrees.headD {held : List Held} {above : List Edges} (h : Agrees held above) :
    held.headD .nothing = .of above.head? := by
  have hzero := h 0
  rwa [← List.head?_eq_getElem?, ← List.head?_eq_getElem?, ← List.headD_eq_head?_getD] at hzero

theorem Agrees.tail {held : List Held} {above : List Edges} (h : Agrees held above) :
    Agrees held.tail above.tail := by
  intro i
  rw [List.getElem?_tail, List.getElem?_tail]
  exact h (i + 1)

/-- The decisions about the squares of a row in their order, and their lower edges. -/
def rowSquares (r : Raster (Rgba UInt8)) (row : Nat) :
    (count column : Nat) → (above : List Edges) → (left : Option Edges) →
      List (List Decision) × List Edges
  | 0, _, _, _ => ([], [])
  | count + 1, column, above, left =>
    let (ds, lower, right) := square r column row above.head? left
    let (all, lowers) := rowSquares r row count (column + 1) above.tail (some right)
    (ds :: all, lower :: lowers)

/-- The decisions about the squares of rows in their order. -/
def allSquares (r : Raster (Rgba UInt8)) :
    (count row : Nat) → (above : List Edges) → List (List Decision)
  | 0, _, _ => []
  | count + 1, row, above =>
    let (all, lowers) := rowSquares r row (squares r.width) 0 above none
    all ++ allSquares r count (row + 1) lowers

theorem squareRow_eq (r : Raster (Rgba UInt8)) (row count column : Nat) (above : List Edges)
    (left : Option Edges) (reversed : List (List Decision)) :
    squareRow r row count column above left reversed =
      ((rowSquares r row count column above left).1.reverse ++ reversed,
        (rowSquares r row count column above left).2) := by
  induction count generalizing column above left reversed with
  | zero => rfl
  | succ count ih =>
    rw [squareRow, rowSquares]
    generalize square r column row above.head? left = here
    obtain ⟨ds, lower, right⟩ := here
    simp only [ih, List.reverse_cons, List.append_assoc, List.cons_append, List.nil_append]

theorem squareRows_eq (r : Raster (Rgba UInt8)) (count row : Nat) (above : List Edges)
    (reversed : List (List Decision)) :
    squareRows r count row above reversed = (allSquares r count row above).reverse ++ reversed := by
  induction count generalizing row above reversed with
  | zero => rfl
  | succ count ih =>
    rw [squareRows, allSquares, squareRow_eq]
    generalize rowSquares r row (squares r.width) 0 above none = here
    obtain ⟨all, lowers⟩ := here
    simp only [ih, List.reverse_append, List.append_assoc]

/-- What is left of a picture is what is left of its squares in their order. -/
theorem rest_eq (r : Raster (Rgba UInt8)) : rest r = (allSquares r (squares r.height) 0 []).flatten := by
  unfold rest
  rw [squareRows_eq, List.append_nil, List.reverse_reverse]

theorem takes_readResidues (r : Raster (Rgba UInt8)) (row count column : Nat) {held : List Held}
    {above : List Edges} (h : Agrees held above) (left : Option Edges) :
    ∃ residues : List Residue,
      Takes (readResidues plainHead (List.replicate count plainPlan) held (.of left))
        (rowSquares r row count column above left).1.flatten
        (residues, (rowSquares r row count column above left).2.map fun e => .of (some e)) := by
  induction count generalizing column held above left with
  | zero => exact ⟨[], .pure _⟩
  | succ count ih =>
    obtain ⟨residue, hsquare⟩ := takes_readResidue r column row above.head? left
    rw [rowSquares, List.replicate_succ, readResidues, h.headD]
    generalize square r column row above.head? left = here at *
    obtain ⟨ds, lower, right⟩ := here
    obtain ⟨residues, hrest⟩ := ih (column + 1) h.tail (some right)
    exact ⟨residue :: residues, hsquare.bind hrest.bind_pure⟩

/-- All rows of squares are read, from one part. -/
theorem exists_readResidueRows (r : Raster (Rgba UInt8)) (count row : Nat) {held : List Held}
    {above : List Edges} (h : Agrees held above) {d : Decider}
    (hd : Follows d (allSquares r count row above).flatten) :
    ∃ residues,
      readResidueRows plainHead (List.replicate count (List.replicate (squares r.width) plainPlan))
        held [d] = .ok residues := by
  induction count generalizing row held above d with
  | zero => exact ⟨[], rfl⟩
  | succ count ih =>
    obtain ⟨residues, hrow⟩ := takes_readResidues r row (squares r.width) 0 h none
    rw [allSquares] at hd
    generalize rowSquares r row (squares r.width) 0 above none = here at *
    obtain ⟨all, lowers⟩ := here
    rw [List.flatten_append] at hd
    obtain ⟨d', hread, hd'⟩ := hrow d _ hd
    obtain ⟨others, hothers⟩ := ih (row + 1) (agrees_map lowers) hd'
    have hnothing : Held.of none = .nothing := rfl
    rw [hnothing] at hread
    refine ⟨residues :: others, ?_⟩
    rw [List.replicate_succ, readResidueRows, hread]
    show (readResidueRows plainHead _ _ [d']).bind _ = _
    rw [hothers]
    rfl

/-- **What is left of the squares is read** as far as it was written. -/
theorem exists_readResidueRows_rest {r : Raster (Rgba UInt8)}
    {d : Decider} (hd : Follows d (rest r)) :
    ∃ residues, readResidueRows plainHead
      (List.replicate (squares r.height) (List.replicate (squares r.width) plainPlan))
      (List.replicate (squares r.width) .nothing) [d] = .ok residues := by
  rw [rest_eq] at hd
  exact exists_readResidueRows r (squares r.height) 0 (agrees_nothing (squares r.width)) hd

end Cutout.Webp.Lossy
