import Cutout.Codec.Webp.Lossy.Frame
import Cutout.Codec.Webp.Lossy.Square

/-!
# Lossy pictures

A lossy picture has a head with its size, a part that says how the squares are predicted, and a part
with what is left of them. Every square is predicted in the same way, and no probability is replaced.
-/

namespace Cutout.Webp.Lossy

/-- Write a row of squares below others: `reversed` holds the decisions so far, latest first. -/
def squareRow (r : Raster (Rgba UInt8)) (row : Nat) :
    (count column : Nat) → (above : List Edges) → (left : Option Edges) →
      (reversed : List (List Decision)) → List (List Decision) × List Edges
  | 0, _, _, _, reversed => (reversed, [])
  | count + 1, column, above, left, reversed =>
    let (ds, lower, right) := square r column row above.head? left
    let (all, lowers) :=
      squareRow r row count (column + 1) above.tail (some right) (ds :: reversed)
    (all, lower :: lowers)

/-- Write rows of squares. -/
def squareRows (r : Raster (Rgba UInt8)) :
    (count row : Nat) → (above : List Edges) → (reversed : List (List Decision)) →
      List (List Decision)
  | 0, _, _, reversed => reversed
  | count + 1, row, above, reversed =>
    let (all, lowers) := squareRow r row (squares r.width) 0 above none reversed
    squareRows r count (row + 1) lowers all

/-- The decisions about what is left of all squares. -/
def rest (r : Raster (Rgba UInt8)) : List Decision :=
  (squareRows r (squares r.height) 0 [] []).reverse.flatten

/-- The decisions in front of the squares: no segments, no smoothing, one part with what is left of
the squares, the steps, and the probabilities that are kept. -/
def opening : List Decision :=
  number 2 0 ++ number 1 0 ++ number 1 0 ++ number 6 0 ++ number 3 0 ++ number 1 0 ++
    number 2 0 ++ number 7 stepsNumber ++ number 5 0 ++ number 1 0 ++
    keepTable.toList.map (fun p => ⟨p, false⟩) ++ number 1 0

/-- The decisions that predict a square by the mean of its edges. -/
def meanMode : List Decision :=
  [⟨145, true⟩, ⟨156, false⟩, ⟨163, false⟩, ⟨142, false⟩]

/-- How the squares are predicted. -/
def modes (r : Raster (Rgba UInt8)) : List Decision :=
  opening ++ (List.replicate (squares r.width * squares r.height) meanMode).flatten

/-- A picture written out. -/
def encode (r : Raster (Rgba UInt8)) : Bytes :=
  let first := Coder.write (modes r)
  Frame.bytes ⟨r.width, r.height, first.length⟩ ++ first ++ Coder.write (rest r)

end Cutout.Webp.Lossy
