import Cutout.Codec.Webp.Lossy.Head
import Cutout.Codec.Webp.Lossy.Token

/-!
# What is left of squares

The strengths of what prediction leaves of a square are read block by block: the steady strengths
first if the square is predicted as a whole, then sixteen blocks of brightness and four of each colour.
What the blocks above and on the left hold makes the probabilities of the first decision.
-/

namespace Cutout.Webp.Lossy

/-! ## Numbers -/

/-- Further bits of a number behind the bits of `acc`, with how likely each of them is zero. -/
def readFurther : (odds : List Nat) → (acc : Nat) → Deciding Nat
  | [], acc => return acc
  | p :: ps, acc => do
    let b ← decision p
    readFurther ps (2 * acc + b.toNat)

/-- The decisions about a size above one: the least size that a leaf stands for, and its further
bits. -/
def sizeTree : Tree (Nat × List Nat) :=
  let large (i : Nat) : Tree (Nat × List Nat) :=
    match largeSizes[i]? with
    | some (least, _, further) => .leaf (least, further)
    | none => .leaf (0, [])
  .node 3
    (.node 4 (.leaf (2, [])) (.node 5 (.leaf (3, [])) (.leaf (4, []))))
    (.node 6
      (.node 7 (large 5) (large 4))
      (.node 8 (.node 9 (large 3) (large 2)) (.node 10 (large 1) (large 0))))

/-- A size above zero, where `p` says how likely the first branches are. -/
def readSize (p : Nat → Nat) : Deciding Nat := do
  if ← decision (p 2) then
    let (least, further) ← sizeTree.read p
    let more ← readFurther further 0
    return least + more
  else return 1

/-- The numbers from a place on, latest first. After a zero there is no end. -/
def readTokens (table : Array Nat) (k : Kind) :
    (fuel place context : Nat) → (afterZero : Bool) → (done : List Int) → Deciding (List Int)
  | 0, _, _, _, done => return done
  | fuel + 1, place, context, afterZero, done =>
    if 16 ≤ place then return done
    else do
      let p := likelihood table k place context
      let goesOn ← if afterZero then pure true else decision (p 0)
      if ¬ goesOn then return done
      else if ← decision (p 1) then
        let n ← readSize p
        let v : Int := if ← evenDecision then -n else n
        readTokens table k fuel (place + 1) (contextAfter v) false (v :: done)
      else readTokens table k fuel (place + 1) 0 true (0 :: done)

/-- The place of each number of a block along its diagonals. -/
def alongDiagonals : List Nat :=
  [0, 1, 5, 6, 2, 4, 7, 12, 3, 8, 11, 13, 9, 10, 14, 15]

/-- A block from the numbers along its diagonals. -/
def unsequence (vs : Array Int) : Block :=
  alongDiagonals.map fun i => vs.getD i 0

/-- Read a block, and whether any number was given. -/
def readBlock (table : Array Nat) (k : Kind) (s : Steps) (above left : Bool) :
    Deciding (Block × Bool) := do
  let done ← readTokens table k 16 k.begin (above.toNat + left.toNat) false []
  if done.isEmpty then return ([], false)
  else
    let vs := List.replicate k.begin 0 ++ done.reverse
    return (s.multiply (unsequence vs.toArray), true)

/-! ## Squares -/

/-- Read blocks in a row, and what they hold. -/
def readRow (read : (above left : Bool) → Deciding (Block × Bool)) :
    (above : List Bool) → (left : Bool) → Deciding (List Block × List Bool)
  | [], _ => return ([], [])
  | a :: above, left => do
    let (b, full) ← read a left
    let (bs, fulls) ← readRow read above full
    return (b :: bs, full :: fulls)

/-- Read rows of blocks, what the last row holds, and what the ends of the rows hold. -/
def readGrid (read : (above left : Bool) → Deciding (Block × Bool)) :
    (above left : List Bool) → Deciding (List Block × List Bool × List Bool)
  | above, [] => return ([], above, [])
  | above, l :: left => do
    let (bs, fulls) ← readRow read above l
    let (rest, lower, ends) ← readGrid read fulls left
    return (bs ++ rest, lower, fulls.getLastD false :: ends)

/-- Which blocks at one edge of a square hold anything. -/
structure Held where
  light : List Bool
  blue : List Bool
  red : List Bool
  steady : Bool
  deriving DecidableEq, Repr

/-- No block holds anything. -/
def Held.nothing : Held :=
  ⟨List.replicate 4 false, List.replicate 2 false, List.replicate 2 false, false⟩

/-- What is left of a square: its blocks row by row. A block that holds nothing is empty. -/
structure Residue where
  light : List Block
  blue : List Block
  red : List Block
  deriving DecidableEq, Repr

/-- Nothing is left of a square. -/
def Residue.nothing : Residue :=
  ⟨[], [], []⟩

/-- Nothing is left in any block. -/
def Residue.isNothing (r : Residue) : Bool :=
  r.light.all (·.isEmpty) && r.blue.all (·.isEmpty) && r.red.all (·.isEmpty)

/-- A block with another first strength. -/
def withFirst (b : Block) (first : Int) : Block :=
  if b.isEmpty then if first = 0 then [] else first :: List.replicate 15 0
  else first :: b.drop 1

/-- Read what is left of the brightness of a square: the blocks, what the steady strengths hold, and
what the blocks hold at the lower and the right edge. -/
def readLight (table : Array Nat) (s : SquareSteps) (p : LightPlan) (above left : Held) :
    Deciding (List Block × Bool × List Bool × List Bool) := do
  match p with
  | .whole _ =>
    let (first, full) ← readBlock table .steady s.steady above.steady left.steady
    let (bs, lower, right) ←
      readGrid (readBlock table .changing s.light) above.light left.light
    let bs := if full then bs.zipWith withFirst (unsteady first) else bs
    return (bs, full, lower, right)
  | .blocks _ =>
    let (bs, lower, right) ← readGrid (readBlock table .whole s.light) above.light left.light
    return (bs, false, lower, right)

/-- Read what is left of a square, and what its blocks hold at the lower and the right edge. A square
predicted block by block has no steady strengths and leaves alone what is known of them. -/
def readResidue (h : Head) (p : Plan) (above left : Held) :
    Deciding (Residue × Held × Held) := do
  let byBlocks := match p.light with
    | .whole _ => false
    | .blocks _ => true
  if p.isEmpty then
    let edge (e : Held) : Held := { Held.nothing with steady := byBlocks && e.steady }
    return (.nothing, edge above, edge left)
  else
    let s := h.stepsOf p.segment
    let (light, full, lightLower, lightRight) ← readLight h.tokens s p.light above left
    let color := readBlock h.tokens .color s.color
    let (blue, blueLower, blueRight) ← readGrid color above.blue left.blue
    let (red, redLower, redRight) ← readGrid color above.red left.red
    let steady (e : Held) : Bool := if byBlocks then e.steady else full
    return (⟨light, blue, red⟩, ⟨lightLower, blueLower, redLower, steady above⟩,
      ⟨lightRight, blueRight, redRight, steady left⟩)

/-- Read what is left of the squares of a row, and what they hold at their lower edges. -/
def readResidues (h : Head) :
    List Plan → (above : List Held) → (left : Held) → Deciding (List Residue × List Held)
  | [], _, _ => return ([], [])
  | p :: ps, above, left => do
    let (r, lower, right) ← readResidue h p (above.headD .nothing) left
    let (rs, lowers) ← readResidues h ps above.tail right
    return (r :: rs, lower :: lowers)

/-- Read what is left of rows of squares. The rows are dealt out to the parts in turn. -/
def readResidueRows (h : Head) :
    List (List Plan) → (above : List Held) → List Decider →
      Except ImageFault (List (List Residue))
  | [], _, _ => return []
  | row :: rows, above, d :: ds => do
    let ((rs, lowers), d) ← readResidues h row above .nothing d
    let rest ← readResidueRows h rows lowers (ds ++ [d])
    return rs :: rest
  | _ :: _, _, [] => .error cutOff

end Cutout.Webp.Lossy
