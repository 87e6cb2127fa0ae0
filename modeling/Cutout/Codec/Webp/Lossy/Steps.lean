/-!
# Steps

The strengths of a square are multiples of steps. A number up to 127 stands for the steps of all its
parts, from fine to coarse; a picture can shift it for each part.
-/

namespace Cutout.Webp.Lossy

/-- The steps of first strengths, by their number. -/
def firstStepTable : Array Nat :=
  #[
    4, 5, 6, 7, 8, 9, 10, 10, 11, 12, 13, 14, 15, 16, 17, 17, 18, 19, 20, 20, 21, 21, 22, 22, 23,
    23, 24, 25, 25, 26, 27, 28, 29, 30, 31, 32, 33, 34, 35, 36, 37, 37, 38, 39, 40, 41, 42, 43, 44,
    45, 46, 46, 47, 48, 49, 50, 51, 52, 53, 54, 55, 56, 57, 58, 59, 60, 61, 62, 63, 64, 65, 66, 67,
    68, 69, 70, 71, 72, 73, 74, 75, 76, 76, 77, 78, 79, 80, 81, 82, 83, 84, 85, 86, 87, 88, 89, 91,
    93, 95, 96, 98, 100, 101, 102, 104, 106, 108, 110, 112, 114, 116, 118, 122, 124, 126, 128, 130,
    132, 134, 136, 138, 140, 143, 145, 148, 151, 154, 157
  ]

/-- The steps of other strengths, by their number. -/
def otherStepTable : Array Nat :=
  #[
    4, 5, 6, 7, 8, 9, 10, 11, 12, 13, 14, 15, 16, 17, 18, 19, 20, 21, 22, 23, 24, 25, 26, 27, 28,
    29, 30, 31, 32, 33, 34, 35, 36, 37, 38, 39, 40, 41, 42, 43, 44, 45, 46, 47, 48, 49, 50, 51, 52,
    53, 54, 55, 56, 57, 58, 60, 62, 64, 66, 68, 70, 72, 74, 76, 78, 80, 82, 84, 86, 88, 90, 92, 94,
    96, 98, 100, 102, 104, 106, 108, 110, 112, 114, 116, 119, 122, 125, 128, 131, 134, 137, 140,
    143, 146, 149, 152, 155, 158, 161, 164, 167, 170, 173, 177, 181, 185, 189, 193, 197, 201, 205,
    209, 213, 217, 221, 225, 229, 234, 239, 245, 249, 254, 259, 264, 269, 274, 279, 284
  ]

/-- The steps of the first strength of a block and of the others. -/
structure Steps where
  first : Nat
  others : Nat
  deriving DecidableEq, Repr

/-- What is added to the number of the steps for parts of a square. -/
structure Shifts where
  lightFirst : Int
  steadyFirst : Int
  steadyOthers : Int
  colorFirst : Int
  colorOthers : Int
  deriving DecidableEq, Repr

/-- Nothing is added. -/
def Shifts.zero : Shifts :=
  ⟨0, 0, 0, 0, 0⟩

/-- The steps of the parts of a square: of its brightness, of the first strengths of its brightness,
and of its colour. -/
structure SquareSteps where
  light : Steps
  steady : Steps
  color : Steps
  deriving DecidableEq, Repr

/-- An entry of a step table; numbers beyond an end stand for the last step there. -/
def stepAt (table : Array Nat) (last : Nat) (n : Int) : Nat :=
  table.getD (min n.toNat last) 0

/-- The steps with a number, shifted. The steps of the steady strengths are about twice as coarse as
those of the brightness, and the first step of a colour stays below the coarsest ones. -/
def SquareSteps.of (n : Int) (s : Shifts) : SquareSteps where
  light := ⟨stepAt firstStepTable 127 (n + s.lightFirst), stepAt otherStepTable 127 n⟩
  steady :=
    ⟨2 * stepAt firstStepTable 127 (n + s.steadyFirst),
      max 8 (stepAt otherStepTable 127 (n + s.steadyOthers) * 155 / 100)⟩
  color :=
    ⟨stepAt firstStepTable 117 (n + s.colorFirst), stepAt otherStepTable 127 (n + s.colorOthers)⟩

end Cutout.Webp.Lossy
