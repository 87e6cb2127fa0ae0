import Cutout.Codec.Webp.Lossy.Coder
import Cutout.Codec.Webp.Lossy.Probability
import Cutout.Codec.Webp.Lossy.Transform

/-!
# Tokens

The numbers of a block are written along its diagonals up to the last one that is not zero. Each
number is a few decisions about its size, further bits if it is large, and a sign. How likely the
branches are depends on the place, on the number before, and at the beginning on whether the blocks
above and to the left hold anything.
-/

namespace Cutout.Webp.Lossy

/-- The kinds of blocks. -/
inductive Kind where
  /-- Brightness whose first strengths are written apart. -/
  | changing
  /-- The first strengths. -/
  | steady
  /-- Colour. -/
  | color
  /-- Brightness with its first strengths. -/
  | whole
  deriving DecidableEq, Repr

namespace Kind

/-- The number of a kind. -/
def index : Kind → Nat
  | changing => 0
  | steady => 1
  | color => 2
  | whole => 3

/-- The place of the first number that is written. -/
def begin : Kind → Nat
  | changing => 1
  | steady | color | whole => 0

end Kind

/-- The order of the places of a block. -/
def diagonals : List Nat :=
  [0, 1, 4, 8, 5, 2, 3, 6, 9, 12, 13, 10, 7, 11, 14, 15]

/-- The numbers of a block along its diagonals, up to the last one that is not zero. -/
def sequence (k : Kind) (b : Block) : List Int :=
  let all := (diagonals.drop k.begin).map fun i => b.getD i 0
  (all.reverse.dropWhile (· == 0)).reverse

/-- Which places have the same probabilities. -/
def band : Nat → Nat
  | 0 => 0
  | 1 => 1
  | 2 => 2
  | 3 => 3
  | 4 => 6
  | 5 => 4
  | 6 => 5
  | 15 => 7
  | _ => 6

/-- How likely the first branch of a decision is, by a table of probabilities. -/
def likelihood (table : Array Nat) (k : Kind) (place context decision : Nat) : Nat :=
  table.getD (((k.index * 8 + band place) * 3 + context) * 11 + decision) 128

/-- The branches and further bits of large numbers: their least size, the decisions that lead to them,
and how likely each further bit is zero. -/
def largeSizes : List (Nat × List (Nat × Bool) × List Nat) :=
  [(67, [(6, true), (8, true), (10, true)],
      [254, 254, 243, 230, 196, 177, 153, 140, 133, 130, 129]),
   (35, [(6, true), (8, true), (10, false)], [180, 157, 141, 134, 130]),
   (19, [(6, true), (8, false), (9, true)], [176, 155, 140, 135]),
   (11, [(6, true), (8, false), (9, false)], [173, 148, 140]),
   (7, [(6, false), (7, true)], [165, 145]),
   (5, [(6, false), (7, false)], [159])]

/-- The further bits of a number, the highest one first. -/
def furtherBits (n : Nat) : List Nat → List Decision
  | [] => []
  | p :: ps => ⟨p, n.testBit ps.length⟩ :: furtherBits n ps

/-- The decisions about a size above zero, where `p` says how likely their first branches are. -/
def size (p : Nat → Nat) (n : Nat) : List Decision :=
  let decide (d : Nat × Bool) : Decision := ⟨p d.1, d.2⟩
  if n ≤ 1 then [decide (2, false)]
  else if n ≤ 4 then
    [decide (2, true), decide (3, false), decide (4, n ≠ 2)] ++
      (if n = 2 then [] else [decide (5, n = 4)])
  else
    match largeSizes.find? fun s => s.1 ≤ n with
    | none => []
    | some (least, path, further) =>
      [decide (2, true), decide (3, true)] ++ path.map decide ++ furtherBits (n - least) further

/-- The context after a number. -/
def contextAfter (v : Int) : Nat :=
  min v.natAbs 2

/-- The decisions about the numbers from a place on. After a zero there is no end. -/
def tokensFrom (k : Kind) :
    (place context : Nat) → (afterZero : Bool) → List Int → List Decision
  | place, context, _, [] =>
    if place = 16 then [] else [⟨likelihood tokenTable k place context 0, false⟩]
  | place, context, afterZero, v :: vs =>
    let p := likelihood tokenTable k place context
    (if afterZero then [] else [⟨p 0, true⟩]) ++
      (if v = 0 then [⟨p 1, false⟩]
      else ⟨p 1, true⟩ :: (size p v.natAbs ++ [.even (v < 0)])) ++
      tokensFrom k (place + 1) (contextAfter v) (v = 0) vs

/-- The decisions about a block, and whether it holds anything. -/
def tokens (k : Kind) (above left : Bool) (b : Block) : List Decision × Bool :=
  let vs := sequence k b
  (tokensFrom k k.begin (above.toNat + left.toNat) false vs, !vs.isEmpty)

/-- The decisions about blocks in a row, and what they hold. -/
def rowTokens (k : Kind) : (above : List Bool) → (left : Bool) → List Block →
    List Decision × List Bool
  | _, _, [] => ([], [])
  | above, left, b :: bs =>
    let (ds, full) := tokens k (above.headD false) left b
    let (rest, fulls) := rowTokens k above.tail full bs
    (ds ++ rest, full :: fulls)

/-- The decisions about rows of blocks, what the last row holds, and what the ends of the rows
hold. -/
def gridTokens (k : Kind) : (above left : List Bool) → List (List Block) →
    List Decision × List Bool × List Bool
  | above, _, [] => ([], above, [])
  | above, left, row :: rows =>
    let (ds, fulls) := rowTokens k above (left.headD false) row
    let (rest, bottom, ends) := gridTokens k fulls left.tail rows
    (ds ++ rest, bottom, fulls.getLastD false :: ends)

end Cutout.Webp.Lossy
