import Cutout.Codec.Jpeg.Segment

/-!
# Blocks

A block holds the strengths of sixty-four frequencies, in the order of its diagonals. The first one is
steady and is given as the difference from the block before; the others come with the number of zeros
in front of them. A block is written at once, or in passes: the first pass over a band of places gives
the high bits of its strengths, and each further one a lower bit.

A file that ends within a scan is read as if zeros followed.
-/

namespace Cutout.Jpeg

/-- The strengths of a block, in the order in which they are stored. -/
abbrev Block := Array Int

/-- A block without any strength. -/
def Block.zero : Block :=
  Array.replicate 64 0

/-- A place in a scan. -/
structure Cursor where
  bits : Bits
  /-- The parts of the scan behind later restarts. -/
  later : List Bytes
  /-- The first strength of the last block of each component. -/
  befores : Array Int
  /-- How many blocks to come have nothing in the band of the pass. -/
  empty : Nat

/-- A step of reading a scan. -/
abbrev ScanReading := StateT Cursor (Except ImageFault)

/-! ## Numbers -/

/-- The next bit; zeros follow the last one. -/
def nextBit (b : Bits) : Option (Bool × Bits) :=
  some (b.high?.getD (false, b))

/-- The number of the next `n` bits, after the bits of `acc`. -/
def numberFrom : (n acc : Nat) → Bits → Nat × Bits
  | 0, acc, b => (acc, b)
  | n + 1, acc, b =>
    let (x, b) := b.high?.getD (false, b)
    numberFrom n (2 * acc + x.toNat) b

/-- The number of the next `n` bits. -/
def number (n : Nat) : ScanReading Nat :=
  fun c =>
    let (v, b) := numberFrom n 0 c.bits
    .ok (v, { c with bits := b })

/-- The next bit. -/
def bit : ScanReading Bool := do
  return (← number 1) == 1

/-- The number that `n` bits stand for: the lower half of them stands for negative numbers. -/
def signed (n v : Nat) : Int :=
  if n = 0 then 0 else if v < 1 <<< (n - 1) then (v : Int) - (1 <<< n - 1 : Nat) else v

/-- A strength of `n` bits. -/
def strength (n : Nat) : ScanReading Int := do
  return signed n (← number n)

/-- A symbol of a code. -/
def symbol (code : PrefixCode) : ScanReading Nat :=
  fun c =>
    match code.read nextBit c.bits with
    | .ok (x, b) => .ok (x, { c with bits := b })
    | .error _ => .error (fault "code word")

/-! ## Codes and passes -/

/-- What the blocks of a component are read with. -/
structure Reader where
  /-- The number of the component. -/
  component : Nat
  steady : PrefixCode
  changing : PrefixCode

/-- The first strength of a block: the difference from that of the block before. -/
def Reader.first (r : Reader) : ScanReading Int := do
  let size ← symbol r.steady
  if 16 < size then throw (fault "code word")
  else
    let d ← strength size
    let c ← get
    let v := c.befores.getD r.component 0 + d
    set { c with befores := c.befores.setIfInBounds r.component v }
    return v

/-- The strengths of a band from place `k` on, up to place `last`. The lowest `low` bits are left
out. In a pass, the end of a band can also be the end of the bands of blocks to come. -/
def Reader.band (r : Reader) (isPass : Bool) (low last : Nat) :
    (fuel k : Nat) → Block → ScanReading Block
  | 0, _, block => return block
  | fuel + 1, k, block =>
    if last < k then return block
    else do
      let x ← symbol r.changing
      let zeros := x / 16
      let size := x % 16
      if size = 0 then
        -- sixteen zeros, after which the band goes on
        if zeros = 15 then r.band isPass low last fuel (k + 16) block
        else if ¬ isPass then return block
        else
          let more ← number zeros
          modify fun c => { c with empty := 1 <<< zeros + more - 1 }
          return block
      else
        let v ← strength size
        r.band isPass low last fuel (k + zeros + 1)
          (block.setIfInBounds (k + zeros) (v * (1 <<< low : Nat)))

/-- All strengths of a block. -/
def Reader.whole (r : Reader) (block : Block) : ScanReading Block := do
  let v ← r.first
  r.band false 0 63 64 1 (block.setIfInBounds 0 v)

/-! ## Lower bits -/

/-- A strength after its bit with the weight `step` has been read. -/
def sharpen (step v : Int) : ScanReading Int := do
  return if ← bit then (if v < 0 then v - step else v + step) else v

/-- Sharpen the strengths from place `k` on, up to the zero that comes after `zeros` other ones: the
place of that zero, and the block. -/
def sharpenBand (step : Int) (last : Nat) :
    (fuel k zeros : Nat) → Block → ScanReading (Nat × Block)
  | 0, k, _, block => return (k, block)
  | fuel + 1, k, zeros, block =>
    if last < k then return (k, block)
    else
      let v := block.getD k 0
      if v ≠ 0 then do
        let v ← sharpen step v
        sharpenBand step last fuel (k + 1) zeros (block.setIfInBounds k v)
      else if zeros = 0 then return (k, block)
      else sharpenBand step last fuel (k + 1) (zeros - 1) block

/-- The next lower bit of the strengths of a band, and the strengths that begin with it. -/
def Reader.sharpBand (r : Reader) (step : Int) (last : Nat) :
    (fuel k : Nat) → Block → ScanReading Block
  | 0, _, block => return block
  | fuel + 1, k, block =>
    if last < k then return block
    else do
      let x ← symbol r.changing
      let zeros := x / 16
      if x % 16 = 0 ∧ zeros < 15 then
        let more ← number zeros
        modify fun c => { c with empty := 1 <<< zeros + more - 1 }
        let (_, block) ← sharpenBand step last 64 k 64 block
        return block
      else
        -- the sign of a new strength comes before the bits of those that are passed
        let isNew := x % 16 ≠ 0
        let isPositive ← if isNew then bit else pure false
        let (k, block) ← sharpenBand step last 64 k zeros block
        let block :=
          if isNew ∧ k ≤ last then block.setIfInBounds k (if isPositive then step else -step)
          else block
        r.sharpBand step last fuel (k + 1) block

/-! ## Passes -/

/-- Read what a pass says about a block. -/
def Reader.pass (r : Reader) (s : Scan) (block : Block) : ScanReading Block := do
  let step : Int := (1 <<< s.low : Nat)
  if s.first = 0 then
    -- the first pass over the first strengths has a code; each further one is a bit a block
    if s.before = 0 then
      let v ← r.first
      return block.setIfInBounds 0 (v * step)
    else if ← bit then return block.setIfInBounds 0 (block.getD 0 0 + step)
    else return block
  else
    let c ← get
    if c.empty ≠ 0 then
      set { c with empty := c.empty - 1 }
      if s.before = 0 then return block
      else
        let (_, block) ← sharpenBand step s.last 64 s.first 64 block
        return block
    else if s.before = 0 then r.band true s.low s.last 64 s.first block
    else r.sharpBand step s.last 64 s.first block

/-! ## Frequencies -/

/-- The order in which the places of a block are stored: along its diagonals. -/
def diagonals : Array Nat :=
  #[0, 1, 8, 16, 9, 2, 3, 10, 17, 24, 32, 25, 18, 11, 4, 5, 12, 19, 26, 33, 40, 48, 41, 34, 27, 20,
    13, 6, 7, 14, 21, 28, 35, 42, 49, 56, 57, 50, 43, 36, 29, 22, 15, 23, 30, 37, 44, 51, 58, 59,
    52, 45, 38, 31, 39, 46, 53, 60, 61, 54, 47, 55, 62, 63]

/-- The strengths of a block row by row, each multiplied by its scale. -/
def Block.scaled (scales : Array Nat) (block : Block) : Array Int :=
  (List.range 64).foldl (fun grid k =>
    grid.setIfInBounds (diagonals.getD k 64) (block.getD k 0 * scales.getD k 0)) Block.zero

end Cutout.Jpeg
