import Cutout.Codec.Webp.Lossy.Prediction
import Cutout.Image.Picture

/-!
# Squares of a lossy picture

A picture is divided into squares of sixteen by sixteen pixels, with brightness at each pixel and two
colour differences at every second one in each direction. A square is predicted to be the mean of
what the reader has seen at its upper and left edge, and what is left is transformed, divided and
written.
-/

namespace Cutout.Webp.Lossy

/-! ## Colours -/

/-- A sum of weighted samples with `shift` further bits, brought back to a byte. -/
def scaled (v : Int) (shift : Nat) : Int :=
  min (v.shiftRight shift).toNat 255

/-- The brightness of a pixel. -/
def brightness (p : Rgba UInt8) : Int :=
  scaled (16839 * p.red.toNat + 33059 * p.green.toNat + 6420 * p.blue.toNat + 0x8000 + 0x100000) 16

/-- How blue four pixels are beyond their brightness. -/
def blueness (ps : List (Rgba UInt8)) : Int :=
  let sum := ps.foldl (fun (s : Int) p =>
    s - 9719 * p.red.toNat - 19081 * p.green.toNat + 28800 * p.blue.toNat) 0
  scaled (sum + 0x20000 + 0x2000000) 18

/-- How red four pixels are beyond their brightness. -/
def redness (ps : List (Rgba UInt8)) : Int :=
  let sum := ps.foldl (fun (s : Int) p =>
    s + 28800 * p.red.toNat - 24116 * p.green.toNat - 4684 * p.blue.toNat) 0
  scaled (sum + 0x20000 + 0x2000000) 18

/-- The pixel in a column and row; beyond the picture its edge goes on. -/
def edgePixel (r : Raster (Rgba UInt8)) (x y : Nat) : Rgba UInt8 :=
  r.getD (min x (r.width - 1)) (min y (r.height - 1)) Rgba.clear

/-- The four pixels that share a colour difference. -/
def fourPixels (r : Raster (Rgba UInt8)) (x y : Nat) : List (Rgba UInt8) :=
  [edgePixel r (2 * x) (2 * y), edgePixel r (2 * x + 1) (2 * y), edgePixel r (2 * x) (2 * y + 1),
    edgePixel r (2 * x + 1) (2 * y + 1)]

/-! ## Prediction -/

/-- The blocks of a part of a picture, row by row, as differences from a prediction. -/
def differences (side : Nat) (guess : Int) (sample : Nat → Nat → Int) : List (List Block) :=
  (List.range side).map fun down => (List.range side).map fun across =>
    (List.range 16).map fun i => sample (4 * across + i % 4) (4 * down + i / 4) - guess

/-- The samples that a reader gets from differences. -/
def seen (guess : Int) (b : Block) : List Int :=
  b.map fun v => min (v + guess).toNat 255

/-- The last row of samples of blocks. -/
def lowerEdge (blocks : List (List (List Int))) : List Int :=
  (blocks.getLastD []).flatMap fun b => b.drop 12

/-- The last column of samples of blocks. -/
def rightEdge (blocks : List (List (List Int))) : List Int :=
  blocks.flatMap fun row =>
    let b := row.getLastD []
    [3, 7, 11, 15].map fun i => b.getD i 0

/-! ## Squares -/

/-- What a square shows to the next one on one side: samples, and which blocks hold anything. -/
structure Edge where
  samples : List Int
  full : List Bool

/-- The edges of the parts of a square. -/
structure Edges where
  light : Edge
  blue : Edge
  red : Edge
  steady : Bool

/-- The number of the steps in which squares are written. -/
def stepsNumber : Nat := 10

/-- The steps in which squares are written. -/
def steps : SquareSteps :=
  .of stepsNumber .zero

/-- A part of a square written out, with its lower and its right edge. -/
structure Part where
  decisions : List Decision
  lower : Edge
  right : Edge

/-- What holds anything on an edge. -/
def fullOf (e : Option Edge) : List Bool :=
  (e.map Edge.full).getD []

/-- Write a colour difference. -/
def colorPart (above left : Option Edge) (sample : Nat → Nat → Int) : Part :=
  let guess := meanOf (above.map Edge.samples) (left.map Edge.samples)
  let blocks := (differences 2 guess sample).map fun row => row.map fun b =>
    steps.color.divide (frequencies b)
  let result := blocks.map fun row => row.map fun b =>
    seen guess (unmixed (steps.color.multiply b))
  let (ds, bottom, ends) := gridTokens .color (fullOf above) (fullOf left) blocks
  ⟨ds, ⟨lowerEdge result, bottom⟩, ⟨rightEdge result, ends⟩⟩

/-- The first strengths of blocks. -/
def firsts (blocks : List (List Block)) : Block :=
  blocks.flatMap fun row => row.map fun b => b.headD 0

/-- Blocks with other first strengths. -/
def withFirsts : List (List Block) → Block → List (List Block)
  | [], _ => []
  | row :: rows, fs =>
    row.zipWith (fun b f => f :: b.drop 1) fs :: withFirsts rows (fs.drop row.length)

/-- Write the brightness, the first strengths before the others. -/
def lightPart (above left : Option Edge) (aboveSteady leftSteady : Bool)
    (sample : Nat → Nat → Int) : Part × Bool :=
  let guess := meanOf (above.map Edge.samples) (left.map Edge.samples)
  let strengths := (differences 4 guess sample).map fun row => row.map frequencies
  let first := steps.steady.divide (steady (firsts strengths))
  let (firstTokens, full) := tokens .steady aboveSteady leftSteady first
  let blocks := strengths.map fun row => row.map steps.light.divide
  let seenFirsts := unsteady (steps.steady.multiply first)
  let others := blocks.map fun row => row.map steps.light.multiply
  let result := (withFirsts others seenFirsts).map fun row => row.map fun b =>
    seen guess (unmixed b)
  let (ds, bottom, ends) := gridTokens .changing (fullOf above) (fullOf left) blocks
  (⟨firstTokens ++ ds, ⟨lowerEdge result, bottom⟩, ⟨rightEdge result, ends⟩⟩, full)

/-- Write the square in a column and row of squares, with its lower and its right edges. -/
def square (r : Raster (Rgba UInt8)) (column row : Nat) (above left : Option Edges) :
    List Decision × Edges × Edges :=
  let (light, full) := lightPart (above.map Edges.light) (left.map Edges.light)
    ((above.map Edges.steady).getD false) ((left.map Edges.steady).getD false)
    fun x y => brightness (edgePixel r (16 * column + x) (16 * row + y))
  let blue := colorPart (above.map Edges.blue) (left.map Edges.blue)
    fun x y => blueness (fourPixels r (8 * column + x) (8 * row + y))
  let red := colorPart (above.map Edges.red) (left.map Edges.red)
    fun x y => redness (fourPixels r (8 * column + x) (8 * row + y))
  (light.decisions ++ blue.decisions ++ red.decisions,
    ⟨light.lower, blue.lower, red.lower, full⟩, ⟨light.right, blue.right, red.right, full⟩)

end Cutout.Webp.Lossy
