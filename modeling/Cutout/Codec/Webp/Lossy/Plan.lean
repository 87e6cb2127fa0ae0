import Cutout.Codec.Webp.Lossy.Decider
import Cutout.Codec.Webp.Lossy.ModeTable

/-!
# Plans of squares

Before the strengths of the squares, the picture says how each of them is predicted: as a whole, or
its brightness block by block, in one of ten directions that depend on those of the blocks above and
on the left.
-/

namespace Cutout.Webp.Lossy

/-- How a whole square is predicted from its edges. -/
inductive Mode where
  /-- By their mean. -/
  | mean
  /-- By what is above. -/
  | down
  /-- By what is on the left. -/
  | across
  /-- By both, less the corner between them. -/
  | slope
  deriving DecidableEq, Repr

/-- How a block of four by four samples is predicted from its edges. -/
inductive Direction where
  | mean
  | slope
  | down
  | across
  | downRight
  | steepRight
  | downLeft
  | steepLeft
  | flatDown
  | flatUp
  deriving DecidableEq, Repr

namespace Direction

/-- The number of a direction in the table of probabilities. -/
def index : Direction → Nat
  | mean => 0
  | slope => 1
  | down => 2
  | across => 3
  | downRight => 4
  | steepRight => 5
  | downLeft => 6
  | steepLeft => 7
  | flatDown => 8
  | flatUp => 9

/-- The direction that stands for a square predicted as a whole. -/
def ofMode : Mode → Direction
  | .mean => mean
  | .down => down
  | .across => across
  | .slope => slope

/-- The decisions about a direction. -/
def tree : Tree Direction :=
  .node 0 (.leaf mean) (.node 1 (.leaf slope) (.node 2 (.leaf down) (.node 3
    (.node 4 (.leaf across) (.node 5 (.leaf downRight) (.leaf steepRight)))
    (.node 6 (.leaf downLeft) (.node 7 (.leaf steepLeft)
      (.node 8 (.leaf flatDown) (.leaf flatUp)))))))

/-- How likely the first branch of a decision is, below and to the right of two directions. -/
def odds (above left : Direction) (decision : Nat) : Nat :=
  directionTable.getD ((above.index * 10 + left.index) * 9 + decision) 128

end Direction

/-- How the brightness of a square is predicted. -/
inductive LightPlan where
  | whole (mode : Mode)
  /-- Block by block, row by row. -/
  | blocks (directions : List (List Direction))
  deriving DecidableEq, Repr

/-- How a square is predicted, which segment it belongs to, and whether nothing is left of it. -/
structure Plan where
  segment : Nat
  isEmpty : Bool
  light : LightPlan
  color : Mode
  deriving DecidableEq, Repr

namespace LightPlan

/-- The directions at the lower edge. -/
def lower : LightPlan → List Direction
  | whole m => List.replicate 4 (.ofMode m)
  | blocks rows => rows.getLastD []

/-- The directions at the right edge. -/
def right : LightPlan → List Direction
  | whole m => List.replicate 4 (.ofMode m)
  | blocks rows => rows.map fun row => row.getLastD .mean

end LightPlan

/-! ## Reading -/

/-- How the picture says which segment a square belongs to and whether nothing is left of it. -/
structure PlanOdds where
  segment : Option (List Nat)
  empty : Option Nat
  deriving DecidableEq, Repr

/-- The decisions about a segment. -/
def segmentTree : Tree Nat :=
  .node 0 (.node 1 (.leaf 0) (.leaf 1)) (.node 2 (.leaf 2) (.leaf 3))

/-- The decisions about a colour, with their odds. -/
def colorTree : Tree Mode :=
  .node 142 (.leaf .mean) (.node 114 (.leaf .down) (.node 183 (.leaf .across) (.leaf .slope)))

/-- The decisions about the brightness of a square as a whole, with their odds. -/
def wholeTree : Tree Mode :=
  .node 156 (.node 163 (.leaf .mean) (.leaf .down)) (.node 128 (.leaf .across) (.leaf .slope))

/-- Read the directions of a row of blocks. -/
def readDirections : (above : List Direction) → (left : Direction) → Deciding (List Direction)
  | [], _ => return []
  | a :: above, left => do
    let d ← Direction.tree.read (Direction.odds a left)
    let rest ← readDirections above d
    return d :: rest

/-- Read the directions of rows of blocks. -/
def readDirectionRows : (above left : List Direction) → Deciding (List (List Direction))
  | _, [] => return []
  | above, l :: left => do
    let row ← readDirections above l
    let rest ← readDirectionRows row left
    return row :: rest

/-- Read how the brightness of a square is predicted. -/
def readLightPlan (above left : List Direction) : Deciding LightPlan := do
  if ← decision 145 then return .whole (← wholeTree.read id)
  else return .blocks (← readDirectionRows above left)

/-- Read how a square is predicted. -/
def readPlan (o : PlanOdds) (above left : List Direction) : Deciding Plan := do
  let segment ←
    match o.segment with
    | none => pure 0
    | some odds => segmentTree.read fun n => odds.getD n 255
  let isEmpty ←
    match o.empty with
    | none => pure false
    | some odds => decision odds
  let light ← readLightPlan above left
  let color ← colorTree.read id
  return ⟨segment, isEmpty, light, color⟩

/-- Beyond the picture all directions are means. -/
def outside : List Direction :=
  List.replicate 4 .mean

/-- Read how the squares of a row are predicted. -/
def readPlans (o : PlanOdds) :
    (above : List (List Direction)) → (left : List Direction) → Deciding (List Plan)
  | [], _ => return []
  | a :: above, left => do
    let p ← readPlan o a left
    let rest ← readPlans o above p.light.right
    return p :: rest

/-- Read how rows of squares are predicted. -/
def readPlanRows (o : PlanOdds) :
    (rows : Nat) → (above : List (List Direction)) → Deciding (List (List Plan))
  | 0, _ => return []
  | rows + 1, above => do
    let row ← readPlans o above outside
    let rest ← readPlanRows o rows (row.map fun p => p.light.lower)
    return row :: rest

end Cutout.Webp.Lossy
