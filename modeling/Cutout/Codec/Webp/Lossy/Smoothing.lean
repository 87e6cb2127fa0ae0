import Cutout.Codec.Webp.Lossy.Prediction

/-!
# Smoothing

Where blocks meet, the samples across the edge are drawn together, unless they differ so much that
there is an edge in the picture itself. Squares are taken in order: the left edge of a square, the
edges between its columns of blocks, its upper edge, and the edges between its rows of blocks. A square
that is predicted as a whole and of which nothing is left has no edges inside.
-/

namespace Cutout.Webp.Lossy

/-! ## Sums -/

/-- The nearest value from -128 to 127. -/
def toSigned (v : Int) : Int :=
  max (-128) (min v 127)

/-- The nearest value from -16 to 15. -/
def toSmall (v : Int) : Int :=
  max (-16) (min v 15)

/-- How far apart two samples are. -/
def apart (a b : Int) : Nat :=
  (a - b).natAbs

/-- Eight samples across an edge: four before it and four behind it. -/
structure Across where
  p3 : Int
  p2 : Int
  p1 : Int
  p0 : Int
  q0 : Int
  q1 : Int
  q2 : Int
  q3 : Int

namespace Across

/-- The samples next to the edge differ little. -/
def isFlat (a : Across) (limit : Nat) : Bool :=
  4 * apart a.p0 a.q0 + apart a.p1 a.q1 ≤ 2 * limit + 1

/-- All neighbours differ little. -/
def isCalm (a : Across) (limit inner : Nat) : Bool :=
  a.isFlat limit && apart a.p3 a.p2 ≤ inner && apart a.p2 a.p1 ≤ inner && apart a.p1 a.p0 ≤ inner &&
    apart a.q3 a.q2 ≤ inner && apart a.q2 a.q1 ≤ inner && apart a.q1 a.q0 ≤ inner

/-- The second samples from the edge differ much from the first ones. -/
def isSteep (a : Across) (limit : Nat) : Bool :=
  limit < apart a.p1 a.p0 || limit < apart a.q1 a.q0

/-- How far the two samples at the edge are apart, with regard to the next ones. -/
def pull (a : Across) : Int :=
  3 * (a.q0 - a.p0) + toSigned (a.p1 - a.q1)

/-- Draw the two samples at the edge together. -/
def drawTwo (a : Across) : Across :=
  { a with
    p0 := toSample (a.p0 + toSmall ((a.pull + 3) / 8))
    q0 := toSample (a.q0 - toSmall ((a.pull + 4) / 8)) }

/-- Draw four samples together. -/
def drawFour (a : Across) : Across :=
  let pull := 3 * (a.q0 - a.p0)
  let behind := toSmall ((pull + 4) / 8)
  let before := toSmall ((pull + 3) / 8)
  let outer := (behind + 1) / 2
  { a with
    p1 := toSample (a.p1 + outer)
    p0 := toSample (a.p0 + before)
    q0 := toSample (a.q0 - behind)
    q1 := toSample (a.q1 - outer) }

/-- Draw six samples together. -/
def drawSix (a : Across) : Across :=
  let pull := toSigned a.pull
  let first := (27 * pull + 63) / 128
  let second := (18 * pull + 63) / 128
  let third := (9 * pull + 63) / 128
  { a with
    p2 := toSample (a.p2 + third)
    p1 := toSample (a.p1 + second)
    p0 := toSample (a.p0 + first)
    q0 := toSample (a.q0 - first)
    q1 := toSample (a.q1 - second)
    q2 := toSample (a.q2 - third) }

end Across

/-! ## Edges -/

/-- What smoothing depends on in a square. -/
structure Limits where
  /-- How much the samples at an edge may differ. -/
  edge : Nat
  /-- How much neighbours may differ. -/
  inner : Nat
  /-- From which difference on only two samples are changed. -/
  steep : Nat
  deriving DecidableEq, Repr

/-- The limits of a level, `none` if nothing is smoothed. -/
def Limits.of? (level sharpness : Nat) : Option Limits :=
  if level = 0 then none
  else
    let inner :=
      if sharpness = 0 then level
      else min (if 4 < sharpness then level / 4 else level / 2) (9 - sharpness)
    let inner := max inner 1
    some ⟨2 * level + inner, inner, if 40 ≤ level then 2 else if 15 ≤ level then 1 else 0⟩

/-- Change the eight samples at a place, `step` apart, the fifth of which is at index `i`. -/
def changeAcross (f : Across → Across) (samples : Array Int) (step i : Nat) : Array Int :=
  let sample (n : Nat) : Int := samples.getD (i + n * step - 4 * step) 0
  let a := f ⟨sample 0, sample 1, sample 2, sample 3, sample 4, sample 5, sample 6, sample 7⟩
  [(1, a.p2), (2, a.p1), (3, a.p0), (4, a.q0), (5, a.q1), (6, a.q2)].foldl
    (fun samples (n, v) => samples.setIfInBounds (i + n * step - 4 * step) v) samples

/-- Smooth an upright edge of some length on the left of a column. -/
def smoothUpright (f : Across → Across) (length x y : Nat) (p : Plane) : Plane :=
  { p with samples := (List.range length).foldl (fun samples n =>
      changeAcross f samples 1 ((y + n) * p.width + x)) p.samples }

/-- Smooth a level edge of some length above a row. -/
def smoothLevel (f : Across → Across) (length x y : Nat) (p : Plane) : Plane :=
  { p with samples := (List.range length).foldl (fun samples n =>
      changeAcross f samples p.width (y * p.width + x + n)) p.samples }

/-- What is done at the edges of squares and at those of blocks. -/
structure Smoother where
  squares : Across → Across
  blocks : Across → Across

/-- Only samples next to an edge are looked at and changed. -/
def Smoother.simple (l : Limits) : Smoother where
  squares a := if a.isFlat (l.edge + 4) then a.drawTwo else a
  blocks a := if a.isFlat l.edge then a.drawTwo else a

/-- All neighbours are looked at, and more samples changed where the picture is calm. -/
def Smoother.full (l : Limits) : Smoother where
  squares a :=
    if a.isCalm (l.edge + 4) l.inner then if a.isSteep l.steep then a.drawTwo else a.drawSix else a
  blocks a :=
    if a.isCalm l.edge l.inner then if a.isSteep l.steep then a.drawTwo else a.drawFour else a

/-- Smooth the edges of a square in a plane, with blocks at the offsets `inside`. -/
def Smoother.smooth (s : Smoother) (inside : List Nat) (hasInside : Bool) (size column row : Nat)
    (p : Plane) : Plane :=
  let x := size * column
  let y := size * row
  let inside := if hasInside then inside else []
  let p := if column = 0 then p else smoothUpright s.squares size x y p
  let p := inside.foldl (fun p n => smoothUpright s.blocks size (x + n) y p) p
  let p := if row = 0 then p else smoothLevel s.squares size x y p
  inside.foldl (fun p n => smoothLevel s.blocks size x (y + n) p) p

/-! ## Pictures -/

/-- Smooth the edges of a square. -/
def Planes.smoothSquare (h : Head) (ps : Planes) (column row : Nat) (p : Plan) (r : Residue) :
    Planes :=
  let byBlocks := match p.light with
    | .whole _ => false
    | .blocks _ => true
  match Limits.of? (h.level p.segment byBlocks) h.smoothing.sharpness with
  | none => ps
  | some l =>
    let hasInside := byBlocks || !r.isNothing
    let ⟨light, blue, red⟩ := ps
    if h.smoothing.isSimple then
      ⟨(Smoother.simple l).smooth [4, 8, 12] hasInside 16 column row light, blue, red⟩
    else
      let s := Smoother.full l
      ⟨s.smooth [4, 8, 12] hasInside 16 column row light, s.smooth [4] hasInside 8 column row blue,
        s.smooth [4] hasInside 8 column row red⟩

/-- Smooth the edges of all squares. -/
def Planes.smooth (h : Head) (plans : List (List Plan)) (residues : List (List Residue))
    (ps : Planes) : Planes :=
  (plans.zip residues).zipIdx.foldl (fun ps ((plans, residues), row) =>
    (plans.zip residues).zipIdx.foldl (fun ps ((p, r), column) =>
      ps.smoothSquare h column row p r) ps) ps

end Cutout.Webp.Lossy
