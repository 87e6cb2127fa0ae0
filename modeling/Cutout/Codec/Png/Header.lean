import Cutout.Codec.Png.Chunk

/-!
# The header of a picture

Size, sample depth, kind of colour, and whether the rows are stored in seven passes.
-/

namespace Cutout.Png

/-- The kinds of colour. -/
inductive Color where
  | gray
  | rgb
  | indexed
  | grayAlpha
  | rgba
  deriving DecidableEq, Repr

/-- The kind of colour with this number. -/
def Color.ofNumber? : Nat → Option Color
  | 0 => some .gray
  | 2 => some .rgb
  | 3 => some .indexed
  | 4 => some .grayAlpha
  | 6 => some .rgba
  | _ => none

/-- The samples of one pixel. -/
def Color.channels : Color → Nat
  | gray => 1
  | rgb => 3
  | indexed => 1
  | grayAlpha => 2
  | rgba => 4

/-- The sample depths of each kind of colour. -/
def Color.depths : Color → List Nat
  | gray => [1, 2, 4, 8, 16]
  | rgb => [8, 16]
  | indexed => [1, 2, 4, 8]
  | grayAlpha => [8, 16]
  | rgba => [8, 16]

/-- The header of a picture. -/
structure Header where
  width : Nat
  height : Nat
  depth : Nat
  color : Color
  interlaced : Bool
  deriving DecidableEq, Repr

namespace Header

/-- The header in the data of its chunk. -/
def read (data : Bytes) : Except ImageFault Header :=
  match Bytes.take? 4 data with
  | none => malformed "short header"
  | some (w, r) =>
    match Bytes.take? 4 r with
    | none => malformed "short header"
    | some (h, r) =>
      let w := Bytes.toNatBE w
      let h := Bytes.toNatBE h
      if w = 0 ∨ h = 0 then malformed "no pixels"
      else
        match r with
        | depth :: color :: compression :: filter :: interlace :: _ =>
          match Color.ofNumber? color.toNat with
          | none => malformed "unknown kind of colour"
          | some c =>
            if !c.depths.contains depth.toNat then malformed "wrong sample depth"
            else if compression ≠ 0 then malformed "unknown compression"
            else if filter ≠ 0 then malformed "unknown filtering"
            else if 1 < interlace then malformed "unknown order of rows"
            else .ok ⟨w, h, depth.toNat, c, interlace = 1⟩
        | _ => malformed "short header"

/-- The bytes of a row of `w` pixels. -/
def rowBytes (h : Header) (w : Nat) : Nat :=
  (w * h.color.channels * h.depth + 7) / 8

/-- The distance in bytes between corresponding samples of neighbouring pixels, at least one. -/
def stride (h : Header) : Nat :=
  max 1 (h.color.channels * h.depth / 8)

end Header

/-- One pass over the picture: its first column and row, and its steps. -/
structure Pass where
  left : Nat
  top : Nat
  right : Nat
  down : Nat
  deriving DecidableEq, Repr

/-- How many steps of size `s` from `first` on stay below `n`. -/
def stepsBelow (n first s : Nat) : Nat :=
  (n - first + s - 1) / s

namespace Pass

/-- The pass over everything. -/
def whole : Pass :=
  ⟨0, 0, 1, 1⟩

/-- The seven passes of an interlaced picture. -/
def seven : List Pass :=
  [⟨0, 0, 8, 8⟩, ⟨4, 0, 8, 8⟩, ⟨0, 4, 4, 8⟩, ⟨2, 0, 4, 4⟩, ⟨0, 2, 2, 4⟩, ⟨1, 0, 2, 2⟩, ⟨0, 1, 1, 2⟩]

/-- The columns of a pass. -/
def width (p : Pass) (h : Header) : Nat :=
  stepsBelow h.width p.left p.right

/-- The rows of a pass; none if it has no columns. -/
def height (p : Pass) (h : Header) : Nat :=
  if p.width h = 0 then 0 else stepsBelow h.height p.top p.down

/-- The pass reaches a pixel. -/
def holds (p : Pass) (x y : Nat) : Bool :=
  p.left ≤ x && p.top ≤ y && (x - p.left) % p.right == 0 && (y - p.top) % p.down == 0

end Pass

/-- The passes of a picture. -/
def Header.passes (h : Header) : List Pass :=
  if h.interlaced then Pass.seven else [Pass.whole]

end Cutout.Png
