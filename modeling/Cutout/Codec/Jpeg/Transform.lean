import Cutout.Image.Picture
import Cutout.Image.Sample

/-!
# From frequencies to samples

A block of eight by eight samples is stored as the strengths of its frequencies. They are turned back
into samples by the same transform along the columns and along the rows, in whole numbers: the
factors are scaled by `2 ^ 12`, and each pass drops bits that it does not need. Colours are stored as
brightness and two differences.
-/

namespace Cutout.Jpeg

/-- The transform of eight strengths. What is added before the lowest bits are dropped rounds and
shifts the samples. -/
def transform (added : Int) (dropped : Nat) : List Int → List Int
  | [s0, s1, s2, s3, s4, s5, s6, s7] =>
    -- the even strengths
    let e := (s2 + s6) * 2217
    let e2 := e + s6 * -7567
    let e3 := e + s2 * 3135
    let e0 := (s0 + s4) * 4096
    let e1 := (s0 - s4) * 4096
    let x0 := e0 + e3 + added
    let x1 := e1 + e2 + added
    let x2 := e1 - e2 + added
    let x3 := e0 - e3 + added
    -- the odd strengths
    let o := (s7 + s3 + (s5 + s1)) * 4816
    let o1 := o + (s7 + s1) * -3685
    let o2 := o + (s5 + s3) * -10497
    let o3 := (s7 + s3) * -8034
    let o4 := (s5 + s1) * -1597
    let y0 := s7 * 1223 + o1 + o3
    let y1 := s5 * 8410 + o2 + o4
    let y2 := s3 * 12586 + o2 + o3
    let y3 := s1 * 6149 + o1 + o4
    [x0 + y3, x1 + y2, x2 + y1, x3 + y0, x3 - y0, x2 - y1, x1 - y2, x0 - y3].map
      fun v : Int => v.shiftRight dropped
  | _ => []

/-- The samples of a block, row by row. A block with a single strength is flat. -/
def samples (block : Array Int) : Array UInt8 :=
  if (block.toList.drop 1).all (· == 0) then
    Array.replicate 64 (sampleOf (block.getD 0 0 / 8 + 128))
  else
    let places := List.range 8
    let columns := places.map fun x =>
      transform 512 10 (places.map fun y => block.getD (8 * y + x) 0)
    let rows := places.map fun y =>
      transform (512 + 65536 + 128 * 0x20000) 17 (columns.map fun c => c.getD y 0)
    (rows.flatten.map sampleOf).toArray

/-- The colour of a brightness and its two differences, with factors scaled by `2 ^ 14`. -/
def colorOf (y blue red : UInt8) : Rgb UInt8 :=
  let y : Int := y.toNat * 16384 + 8191
  let cb : Int := (blue.toNat : Int) - 128
  let cr : Int := (red.toNat : Int) - 128
  let byte (v : Int) : UInt8 := sampleOf (v.shiftRight 14)
  ⟨byte (y + cr * 22970), byte (y + cr * -11700 + cb * -5638), byte (y + cb * 29032)⟩

end Cutout.Jpeg
