import Cutout.Codec.Webp.Lossy.Frame
import Cutout.Codec.Webp.Lossy.Plan
import Cutout.Codec.Webp.Lossy.Probability
import Cutout.Codec.Webp.Lossy.Steps

/-!
# Heads of lossy pictures

In front of the squares a picture gives up to four segments with steps and smoothing of their own, how
edges between blocks are smoothed, the steps, and the probabilities of tokens.
-/

namespace Cutout.Webp.Lossy

/-! ## Segments -/

/-- Steps and smoothing of the segments. -/
structure Segments where
  /-- They stand for themselves and are not added to those of the picture. -/
  areAbsolute : Bool
  steps : List Int
  levels : List Int
  deriving DecidableEq, Repr

/-- Segments whose values are all zero. -/
def Segments.zero (areAbsolute : Bool) : Segments :=
  ⟨areAbsolute, [0, 0, 0, 0], [0, 0, 0, 0]⟩

/-- Read what the segments have of their own. -/
def readSegmentValues : Deciding Segments := do
  let areAbsolute ← evenDecision
  let steps ← readList (whenTaken (readSigned 7)) 4
  let levels ← readList (whenTaken (readSigned 6)) 4
  return ⟨areAbsolute, steps.map fun v => v.getD 0, levels.map fun v => v.getD 0⟩

/-- Read the segments, and how likely each of them is where the squares say theirs. -/
def readSegments : Deciding (Segments × Option (List Nat)) := do
  if ← evenDecision then
    let hasMap ← evenDecision
    let values ← whenTaken readSegmentValues
    let odds ←
      if hasMap then pure (some (← readList (whenTaken (readNumber 8)) 3)) else pure none
    return (values.getD (.zero true), odds.map fun o => o.map fun v => v.getD 255)
  else return (.zero false, none)

/-! ## Smoothing -/

/-- How edges between blocks are smoothed. -/
structure Smoothing where
  isSimple : Bool
  level : Nat
  sharpness : Nat
  /-- What is added to the level of all squares. -/
  forAll : Int
  /-- What is added to the level of squares predicted block by block. -/
  forBlocks : Int
  deriving DecidableEq, Repr

/-- Read what is added to the level of squares: four values for what squares are predicted from, and
four for how. Only the first ones matter to a picture that needs no other one. -/
def readLevelShifts : Deciding (Int × Int) := do
  if ← evenDecision then
    let values ← whenTaken (readList (whenTaken (readSigned 6)) 8)
    let shift (i : Nat) : Int := ((values.getD []).getD i none).getD 0
    return (shift 0, shift 4)
  else return (0, 0)

/-- Read how edges are smoothed. -/
def readSmoothing : Deciding Smoothing := do
  let isSimple ← evenDecision
  let level ← readNumber 6
  let sharpness ← readNumber 3
  let (forAll, forBlocks) ← readLevelShifts
  return ⟨isSimple, level, sharpness, forAll, forBlocks⟩

/-! ## Steps and probabilities -/

/-- Read a shift of steps. -/
def readShift : Deciding Int := do
  return (← whenTaken (readSigned 4)).getD 0

/-- Read the number of the steps and their shifts. -/
def readSteps : Deciding (Nat × Shifts) := do
  let n ← readNumber 7
  let lightFirst ← readShift
  let steadyFirst ← readShift
  let steadyOthers ← readShift
  let colorFirst ← readShift
  let colorOthers ← readShift
  return (n, ⟨lightFirst, steadyFirst, steadyOthers, colorFirst, colorOthers⟩)

/-- Read the probabilities of tokens: each of those given is kept or replaced. -/
def readOdds : (kept : List Nat) → (tokens : List Nat) → Deciding (List Nat)
  | k :: kept, t :: tokens => do
    let p ← if ← decision k then readNumber 8 else pure t
    let rest ← readOdds kept tokens
    return p :: rest
  | _, _ => return []

/-! ## The head -/

/-- What is in front of the squares. -/
structure Head where
  segments : Segments
  smoothing : Smoothing
  /-- The number of parts that the rows of squares are dealt out to. -/
  parts : Nat
  steps : Nat
  shifts : Shifts
  /-- How likely the first branches of decisions about tokens are. -/
  tokens : Array Nat
  plans : PlanOdds

/-- Read what is in front of the squares. The first two decisions are about colours that may go beyond
their range, and one decision about later pictures. -/
def readHead : Deciding Head := do
  let _ ← readNumber 2
  let (segments, segmentOdds) ← readSegments
  let smoothing ← readSmoothing
  let parts ← readNumber 2
  let (steps, shifts) ← readSteps
  let _ ← evenDecision
  let tokens ← readOdds keepTable.toList tokenTable.toList
  let emptyOdds ← whenTaken (readNumber 8)
  return ⟨segments, smoothing, 1 <<< parts, steps, shifts, tokens.toArray,
    ⟨segmentOdds, emptyOdds⟩⟩

/-- The steps of a segment. -/
def Head.stepsOf (h : Head) (segment : Nat) : SquareSteps :=
  let own := h.segments.steps.getD segment 0
  .of (if h.segments.areAbsolute then own else h.steps + own) h.shifts

/-- The smoothing level of squares in a segment, predicted block by block or as a whole. A picture with
level 0 is not smoothed at all. -/
def Head.level (h : Head) (segment : Nat) (byBlocks : Bool) : Nat :=
  if h.smoothing.level = 0 then 0 else
  let own := h.segments.levels.getD segment 0
  let level : Int := if h.segments.areAbsolute then own else h.smoothing.level + own
  let level := level + h.smoothing.forAll + if byBlocks then h.smoothing.forBlocks else 0
  min level.toNat 63

end Cutout.Webp.Lossy
