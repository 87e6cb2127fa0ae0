import Cutout.Codec.Png.Header

/-!
# Rows

Before compression each row is put behind a byte that says how it was filtered: as it is, or as
differences from the pixel to the left, the row above, the mean of both, or the one of three
neighbours that fits best.
-/

namespace Cutout.Png

/-- The neighbour that is nearest to `left + above - corner`, in this order of preference. -/
def predict (left above corner : UInt8) : UInt8 :=
  let a : Int := left.toNat
  let b : Int := above.toNat
  let c : Int := corner.toNat
  let p := a + b - c
  let da := (p - a).natAbs
  let db := (p - b).natAbs
  let dc := (p - c).natAbs
  if da ≤ db && da ≤ dc then left else if db ≤ dc then above else corner

/-- What a filter adds to a byte, given the neighbours to the left, above, and above left. -/
def filterTerm? : Nat → Option (UInt8 → UInt8 → UInt8 → UInt8)
  | 1 => some fun left _ _ => left
  | 2 => some fun _ above _ => above
  | 3 => some fun left above _ => UInt8.ofNat ((left.toNat + above.toNat) / 2)
  | 4 => some predict
  | _ => none

/-- Undo a filter, byte by byte. -/
def unfilterWith (term : UInt8 → UInt8 → UInt8 → UInt8) (stride : Nat) (above row : Array UInt8) :
    Array UInt8 :=
  row.foldl
    (fun out x =>
      let i := out.size
      let back (a : Array UInt8) : UInt8 := if i < stride then 0 else a.getD (i - stride) 0
      out.push (x + term (back out) (above.getD i 0) (back above)))
    #[]

/-- Undo the filter with this number, if there is one. -/
def unfilter? (kind stride : Nat) (above row : Array UInt8) : Option (Array UInt8) :=
  if kind = 0 then some row
  else (filterTerm? kind).map fun t => unfilterWith t stride above row

/-- Why rows cannot be read. -/
inductive RowHalt where
  | unknownFilter
  | starved
  deriving DecidableEq, Repr

/-- Read `n` rows of `size` bytes, below the row `above`. -/
def readRows (stride size : Nat) :
    (n : Nat) → (above : Array UInt8) → Bytes → Except RowHalt (List (Array UInt8) × Bytes)
  | 0, _, b => .ok ([], b)
  | n + 1, above, b =>
    match b with
    | [] => .error .starved
    | kind :: b =>
      match Bytes.take? size b with
      | none => .error .starved
      | some (row, b) =>
        match unfilter? kind.toNat stride above row.toArray with
        | none => .error .unknownFilter
        | some row => do
          let (rows, b) ← readRows stride size n row b
          return (row :: rows, b)

/-- The rows of some passes. -/
def readPasses (h : Header) : List Pass → Bytes → Except RowHalt (List (Pass × Array (Array UInt8)))
  | [], _ => .ok []
  | p :: ps, b => do
    let (rows, b) ← readRows h.stride (h.rowBytes (p.width h)) (p.height h) #[] b
    let rest ← readPasses h ps b
    return (p, rows.toArray) :: rest

/-- A sample of `depth` bits in a row, samples being counted from the left. -/
def sampleAt (depth : Nat) (row : Array UInt8) (k : Nat) : Nat :=
  if depth = 16 then 256 * (row.getD (2 * k) 0).toNat + (row.getD (2 * k + 1) 0).toNat
  else
    let bit := k * depth
    (row.getD (bit / 8) 0).toNat >>> (8 - depth - bit % 8) % (1 <<< depth)

/-- The samples of the pixel in column `x` and row `y`. -/
def samplesAt (h : Header) (passes : List (Pass × Array (Array UInt8))) (x y : Nat) : List Nat :=
  match passes.find? fun p => p.1.holds x y with
  | none => []
  | some (p, rows) =>
    let row := rows.getD ((y - p.top) / p.down) #[]
    let n := h.color.channels
    (List.range n).map fun c => sampleAt h.depth row ((x - p.left) / p.right * n + c)

end Cutout.Png
