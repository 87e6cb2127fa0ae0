import Cutout.Codec.Webp.Lossy.Steps

/-!
# Transforms of lossy pictures

Blocks of four by four numbers are written as the strengths of their frequencies, and the first
strengths of the sixteen blocks of a square are transformed once more. Strengths are divided by a
step and rounded; multiplied again, they give what the reader of the picture will see.
-/

namespace Cutout.Webp.Lossy

/-- Sixteen numbers, row by row. -/
abbrev Block := List Int

/-- The four columns of a block, or its rows if it is given by columns. -/
def turn (b : Block) : Block :=
  (List.range 4).flatMap fun x => (List.range 4).map fun y => b.getD (4 * y + x) 0

/-- Apply a transform of four numbers to each row. -/
def eachRow (f : Int → Int → Int → Int → List Int) : Block → Block
  | a :: b :: c :: d :: rest => f a b c d ++ eachRow f rest
  | _ => []

/-- Apply a transform of four numbers to each column. -/
def eachColumn (f : Int → Int → Int → Int → List Int) (b : Block) : Block :=
  turn (eachRow f (turn b))

/-! ## Frequencies -/

/-- The strengths of a block. -/
def frequencies (b : Block) : Block :=
  let rows := eachRow (fun d0 d1 d2 d3 =>
    let a0 := d0 + d3
    let a1 := d1 + d2
    let a2 := d1 - d2
    let a3 := d0 - d3
    [(a0 + a1) * 8, (a2 * 2217 + a3 * 5352 + 1812) / 512, (a0 - a1) * 8,
      (a3 * 2217 - a2 * 5352 + 937) / 512]) b
  eachColumn (fun d0 d1 d2 d3 =>
    let a0 := d0 + d3
    let a1 := d1 + d2
    let a2 := d1 - d2
    let a3 := d0 - d3
    [(a0 + a1 + 7) / 16, (a2 * 2217 + a3 * 5352 + 12000) / 65536 + (if a3 = 0 then 0 else 1),
      (a0 - a1 + 7) / 16, (a3 * 2217 - a2 * 5352 + 51000) / 65536]) rows

/-- Four numbers from their strengths. -/
def mix (c0 c1 c2 c3 : Int) : List Int :=
  let large (v : Int) : Int := v + v * 20091 / 65536
  let small (v : Int) : Int := v * 35468 / 65536
  let a := c0 + c2
  let b := c0 - c2
  let c := small c1 - large c3
  let d := large c1 + small c3
  [a + d, b + c, b - c, a - d]

/-- The block of some strengths. -/
def unmixed (c : Block) : Block :=
  (eachRow mix (eachColumn mix c)).map fun v => (v + 4) / 8

/-! ## First strengths -/

/-- Sums and differences of four numbers. -/
def sums (d0 d1 d2 d3 : Int) : List Int :=
  let a0 := d0 + d2
  let a1 := d1 + d3
  let a2 := d1 - d3
  let a3 := d0 - d2
  [a0 + a1, a3 + a2, a3 - a2, a0 - a1]

/-- The strengths of the first strengths of sixteen blocks. -/
def steady (b : Block) : Block :=
  (eachColumn sums (eachRow sums b)).map fun v => v / 2

/-- Four numbers from their sums and differences. -/
def unsums (c0 c1 c2 c3 : Int) : List Int :=
  let a := c0 + c3
  let b := c1 + c2
  let c := c1 - c2
  let d := c0 - c3
  [a + b, c + d, a - b, d - c]

/-- The first strengths of sixteen blocks. -/
def unsteady (c : Block) : Block :=
  (eachRow unsums (eachColumn unsums c)).map fun v => (v + 3) / 8

/-! ## Steps -/

/-- The largest number of steps. -/
def mostSteps : Nat := 2047

/-- The number of steps nearest to a strength. -/
def nearestStep (step : Nat) (v : Int) : Int :=
  let n : Int := min ((v.natAbs + step / 2) / step) mostSteps
  if v < 0 then -n else n

/-- A block in steps. -/
def Steps.divide (s : Steps) : Block → Block
  | [] => []
  | v :: vs => nearestStep s.first v :: vs.map (nearestStep s.others)

/-- A block from its steps. -/
def Steps.multiply (s : Steps) : Block → Block
  | [] => []
  | v :: vs => v * s.first :: vs.map (· * (s.others : Int))

end Cutout.Webp.Lossy
