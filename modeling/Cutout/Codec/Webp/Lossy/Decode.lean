import Cutout.Codec.Webp.Lossy.Smoothing
import Cutout.Image.Picture
import Cutout.Image.Sample

/-!
# Reading lossy pictures

A lossy picture is put together from its squares and smoothed. There is a brightness for each pixel
and a pair of colour differences for every four, which are spread out over their neighbours.
-/

namespace Cutout.Webp.Lossy

/-! ## Parts -/

/-- Deal out the bytes of parts whose lengths are given; the rest is the last part. -/
def dealOut : List Nat → Bytes → List Bytes
  | [], b => [b]
  | n :: ns, b => b.take n :: dealOut ns (b.drop n)

/-- The parts with what is left of the squares: the lengths of all but the last one come first. -/
def partsOf (n : Nat) (b : Bytes) : Except ImageFault (List Bytes) := do
  let lengths := 3 * (n - 1)
  match Bytes.take? lengths b with
  | none => .error .truncated
  | some (sizes, b) =>
    let sizes := (List.range (n - 1)).map fun i => Bytes.toNatLE ((sizes.drop (3 * i)).take 3)
    if b.length < sizes.foldl (· + ·) 0 then .error .truncated else return dealOut sizes b

/-- A picture as it is read: its size and its planes. -/
structure Sampled where
  width : Nat
  height : Nat
  planes : Planes

/-- Read the planes of a picture. -/
def read (b : Bytes) : Except ImageFault Sampled := do
  let (f, b) ← readFrame b
  match Bytes.take? f.firstLength b with
  | none => .error .truncated
  | some (first, b) =>
    let (h, d) ← readHead (.ofBytes first)
    let parts ← partsOf h.parts b
    let across := squares f.width
    let down := squares f.height
    let (plans, _) ← readPlanRows h.plans down (List.replicate across outside) d
    let residues ←
      readResidueRows h plans (List.replicate across .nothing) (parts.map Decider.ofBytes)
    let planes := (Planes.ofSquares across down plans residues).smooth h plans residues
    return ⟨f.width, f.height, planes⟩

/-! ## Colours -/

/-- Nine parts of a sample, three of its neighbours on one side and above or below, and one of that
between them. -/
def spread (near side other between : Int) : Int :=
  (9 * near + 3 * side + 3 * other + between + 8) / 16

/-- A colour difference at a pixel of a picture. -/
def Sampled.difference (r : Sampled) (p : Plane) (x y : Nat) : Int :=
  let sideX := otherSample ((r.width + 1) / 2) x
  let sideY := otherSample ((r.height + 1) / 2) y
  spread (p.get (x / 2) (y / 2)) (p.get sideX (y / 2)) (p.get (x / 2) sideY)
    (p.get sideX sideY)

/-- A share of a sample, in steps of a sixty-fourth. -/
def shareOf (v factor : Int) : Int :=
  v * factor / 256

/-- The colour of a brightness and two differences. -/
def colorOf (light blue red : Int) : Rgb UInt8 :=
  let byte (v : Int) : UInt8 := sampleOf (v / 64)
  let light := shareOf light 19077
  ⟨byte (light + shareOf red 26149 - 14234),
    byte (light - shareOf blue 6419 - shareOf red 13320 + 8708),
    byte (light + shareOf blue 33050 - 17685)⟩

/-- The colours of a picture. -/
def Sampled.picture (r : Sampled) : Raster (Rgb UInt8) :=
  Raster.ofFn r.width r.height fun x y =>
    colorOf (r.planes.light.get x y) (r.difference r.planes.blue x y)
      (r.difference r.planes.red x y)

/-- Read a lossy picture. -/
def decode (b : Bytes) : Except ImageFault (Raster (Rgb UInt8)) :=
  (read b).map Sampled.picture

end Cutout.Webp.Lossy
