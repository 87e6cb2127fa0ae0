import Cutout.Codec.Webp.Lossy.Residue

/-!
# Prediction

A square or a block is predicted from the samples above it and on the left of it, and what is left of
it is added. Beyond the upper border of a picture all samples are 127, and beyond the left one 129.
-/

namespace Cutout.Webp.Lossy

/-! ## Planes -/

/-- Samples of one kind, row by row. -/
structure Plane where
  width : Nat
  samples : Array Int

namespace Plane

/-- A plane without anything in it. -/
def empty (w h : Nat) : Plane :=
  ⟨w, Array.replicate (w * h) 0⟩

/-- The sample in a column and row. -/
def get (p : Plane) (x y : Nat) : Int :=
  p.samples.getD (y * p.width + x) 0

/-- Put a sample into a column and row. -/
def put (p : Plane) (x y : Nat) (v : Int) : Plane :=
  { p with samples := p.samples.setIfInBounds (y * p.width + x) v }

/-- The sample above a column and row. -/
def above (p : Plane) (x y : Nat) : Int :=
  if y = 0 then 127 else p.get x (y - 1)

/-- The sample on the left of a column and row. -/
def before (p : Plane) (x y : Nat) : Int :=
  if x = 0 then 129 else p.get (x - 1) y

/-- The sample on the left of that above a column and row. -/
def corner (p : Plane) (x y : Nat) : Int :=
  if y = 0 then 127 else if x = 0 then 129 else p.get (x - 1) (y - 1)

end Plane

/-- The sum of samples. -/
def total (samples : List Int) : Int :=
  samples.foldl (· + ·) 0

/-- The mean of what is at two edges, as far as they are there. -/
def meanOf : (above left : Option (List Int)) → Int
  | none, none => 128
  | some a, none | none, some a => (total a + a.length / 2) / a.length
  | some a, some b => (total a + total b + a.length) / (2 * a.length)

/-- The nearest value from 0 to 255. -/
def toSample (v : Int) : Int :=
  min v.toNat 255

/-- Put the samples of a block, given row by row, into a plane. -/
def putBlock (p : Plane) (x y : Nat) (samples : List Int) : Plane :=
  (samples.foldl (fun (p, i) v => (p.put (x + i % 4) (y + i / 4) v, i + 1)) (p, 0)).1

/-- The samples of a block that is predicted by `guess` in its columns and rows. -/
def blockSamples (guess : Nat → Nat → Int) (b : Block) : List Int :=
  if b.isEmpty then (List.range 16).map fun i => guess (i % 4) (i / 4)
  else
    (unmixed b).zipIdx.map fun (v, i) => toSample (guess (i % 4) (i / 4) + v)

/-! ## Squares -/

/-- The prediction of a square of some size from its edges. -/
def squareGuess (m : Mode) (p : Plane) (size x y : Nat) : Nat → Nat → Int :=
  let above := (Array.range size).map fun i => p.above (x + i) y
  let before := (Array.range size).map fun i => p.before x (y + i)
  match m with
  | .mean =>
    let mean := meanOf (if y = 0 then none else some above.toList)
      (if x = 0 then none else some before.toList)
    fun _ _ => mean
  | .down => fun i _ => above.getD i 0
  | .across => fun _ j => before.getD j 0
  | .slope =>
    let corner := p.corner x y
    fun i j => toSample (before.getD j 0 + above.getD i 0 - corner)

/-- Put the blocks of a square into a plane, `across` of them side by side. -/
def putBlocks (guess : Nat → Nat → Int) (across x y : Nat) (blocks : Array Block) (p : Plane) :
    Plane :=
  (List.range (across * across)).foldl (fun p n =>
    let dx := 4 * (n % across)
    let dy := 4 * (n / across)
    putBlock p (x + dx) (y + dy)
      (blockSamples (fun i j => guess (dx + i) (dy + j)) (blocks.getD n []))) p

/-- Put a square into a plane that is predicted as a whole. -/
def putWhole (m : Mode) (across x y : Nat) (blocks : List Block) (p : Plane) : Plane :=
  putBlocks (squareGuess m p (4 * across) x y) across x y blocks.toArray p

/-! ## Directions -/

/-- The mean of two samples of an edge. -/
def blendTwo (edge : Int → Int) (i : Int) : Int :=
  (edge i + edge (i + 1) + 1) / 2

/-- A sample of an edge with its neighbours, which count half as much. -/
def blendThree (edge : Int → Int) (i : Int) : Int :=
  (edge (i - 1) + 2 * edge i + edge (i + 1) + 2) / 4

/-- The prediction of a block from its edge. The edge goes from the lowest sample on the left (0) over
the corner (4) to the last one above (12), and its ends go on. -/
def directionGuess (d : Direction) (edge : Int → Int) (i j : Nat) : Int :=
  let two := blendTwo edge
  let three := blendThree edge
  let x : Int := i
  let y : Int := j
  match d with
  | .mean => ([0, 1, 2, 3, 5, 6, 7, 8].foldl (fun s n => s + edge n) 4) / 8
  | .slope => toSample (edge (3 - y) + edge (5 + x) - edge 4)
  | .down => three (5 + x)
  | .across => three (3 - y)
  | .downRight => three (4 + x - y)
  | .steepRight =>
    let n := 2 * x - y
    if n < -1 then three (n + 5) else if n % 2 = 0 then two (4 + n / 2) else three (4 + (n + 1) / 2)
  | .downLeft => three (6 + x + y)
  | .steepLeft =>
    if i = 3 ∧ 2 ≤ j then three (8 + y)
    else if j % 2 = 0 then two (5 + x + y / 2)
    else three (6 + x + y / 2)
  | .flatDown =>
    let n := 2 * y - x
    if n < -1 then three (3 - n) else if n % 2 = 0 then two (3 - n / 2) else three (4 - (n + 1) / 2)
  | .flatUp =>
    let n := x + 2 * y
    if n % 2 = 0 then two (2 - n / 2) else three (2 - n / 2)

/-- The edge of a block in column and row `x` and `y`, with four samples that come after those right
above it. -/
def edgeOf (p : Plane) (x y : Nat) (further : List Int) : Array Int :=
  ([3, 2, 1, 0].map fun i => p.before x (y + i)).toArray ++ #[p.corner x y] ++
    ((List.range 4).map fun i => p.above (x + i) y).toArray ++ further.toArray

/-- The four samples that come after those right above a block. For blocks at the right edge of a
square they are those above the next square, and at the right border the last one above repeats. -/
def furtherAbove (p : Plane) (x y column row : Nat) : List Int :=
  let y := if column = 3 then y else y + 4 * row
  let x := x + 4 * column + 4
  (List.range 4).map fun i =>
    if y = 0 then 127 else p.get (min (x + i) (p.width - 1)) (y - 1)

/-- Put a block into a plane that is predicted in a direction. -/
def putDirected (x y column row : Nat) (d : Direction) (b : Block) (p : Plane) : Plane :=
  let further := furtherAbove p x y column row
  let edge := edgeOf p (x + 4 * column) (y + 4 * row) further
  let sample (i : Int) : Int := edge.getD (min i.toNat 12) 0
  putBlock p (x + 4 * column) (y + 4 * row) (blockSamples (directionGuess d sample) b)

/-- Put a square into a plane that is predicted block by block. -/
def putByBlocks (x y : Nat) (directions : List (List Direction)) (blocks : List Block) (p : Plane) :
    Plane :=
  let blocks := blocks.toArray
  (directions.flatten.zipIdx).foldl (fun p (d, n) =>
    putDirected x y (n % 4) (n / 4) d (blocks.getD n []) p) p

/-! ## Pictures -/

/-- The planes of a picture. -/
structure Planes where
  light : Plane
  blue : Plane
  red : Plane

/-- Put a square into the planes. -/
def Planes.putSquare (ps : Planes) (column row : Nat) (p : Plan) (r : Residue) : Planes :=
  let ⟨light, blue, red⟩ := ps
  let light := match p.light with
    | .whole m => putWhole m 4 (16 * column) (16 * row) r.light light
    | .blocks ds => putByBlocks (16 * column) (16 * row) ds r.light light
  ⟨light, putWhole p.color 2 (8 * column) (8 * row) r.blue blue,
    putWhole p.color 2 (8 * column) (8 * row) r.red red⟩

/-- The planes of a picture with so many squares side by side and one below the other. -/
def Planes.ofSquares (across down : Nat) (plans : List (List Plan))
    (residues : List (List Residue)) : Planes :=
  let start : Planes := ⟨.empty (16 * across) (16 * down), .empty (8 * across) (8 * down),
    .empty (8 * across) (8 * down)⟩
  (plans.zip residues).zipIdx.foldl (fun ps ((plans, residues), row) =>
    (plans.zip residues).zipIdx.foldl (fun ps ((p, r), column) =>
      ps.putSquare column row p r) ps) start

end Cutout.Webp.Lossy
