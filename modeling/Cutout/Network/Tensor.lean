/-!
# Tensors

A tensor is a box of numbers of any rank. Its numbers are listed with the last coordinate running
fastest, and there are as many as its shape says.
-/

namespace Cutout

/-- The number of entries of a shape. -/
def volume (shape : List Nat) : Nat :=
  shape.foldr (· * ·) 1

/-- Single-precision numbers in a box. -/
structure Tensor where
  shape : List Nat
  values : Array Float32
  size_values : values.size = volume shape

namespace Tensor

/-- The tensor whose number at place `i` of the list is `f i`. -/
def ofFn (shape : List Nat) (f : Nat → Float32) : Tensor where
  shape := shape
  values := Array.ofFn fun i : Fin (volume shape) => f i.val
  size_values := by simp

/-- The tensor of a list of numbers, if there are as many as the shape says. -/
def ofList? (shape : List Nat) (values : List Float32) : Option Tensor :=
  if h : values.toArray.size = volume shape then some ⟨shape, values.toArray, h⟩ else none

/-- The number at place `i` of the list; zero behind its end. -/
def entry (t : Tensor) (i : Nat) : Float32 :=
  t.values.getD i 0

/-- Apply a function to every number. -/
def map (f : Float32 → Float32) (t : Tensor) : Tensor where
  shape := t.shape
  values := t.values.map f
  size_values := by simpa using t.size_values

/-- The text of a shape. -/
def shapeText (shape : List Nat) : String :=
  "[" ++ ", ".intercalate (shape.map toString) ++ "]"

end Tensor

end Cutout
