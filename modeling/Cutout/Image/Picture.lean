import Cutout.Image.Raster

/-!
# Pictures

A decoded image has one of eight pixel types: gray or colour, with or without opacity, at eight or
sixteen bits a sample. Cutting out works on colour with opacity at eight bits, and `toRgba8` says
how every type is brought there: deep samples are rounded to the nearest shallow one, gray is
repeated in the three colours, and a picture without opacity is opaque.
-/

namespace Cutout

/-- A gray pixel with opacity. -/
structure GrayAlpha (σ : Type) where
  gray : σ
  alpha : σ
  deriving DecidableEq, Repr

/-- A colour pixel. -/
structure Rgb (σ : Type) where
  red : σ
  green : σ
  blue : σ
  deriving DecidableEq, Repr

/-- A colour pixel with opacity. -/
structure Rgba (σ : Type) where
  red : σ
  green : σ
  blue : σ
  alpha : σ
  deriving DecidableEq, Repr

/-- The pixel that nothing shows through: fully transparent, and black underneath. -/
def Rgba.clear : Rgba UInt8 :=
  ⟨0, 0, 0, 0⟩

instance : Inhabited (Rgba UInt8) :=
  ⟨Rgba.clear⟩

/-- A decoded image. -/
inductive Picture where
  | l8 (r : Raster UInt8)
  | la8 (r : Raster (GrayAlpha UInt8))
  | rgb8 (r : Raster (Rgb UInt8))
  | rgba8 (r : Raster (Rgba UInt8))
  | l16 (r : Raster UInt16)
  | la16 (r : Raster (GrayAlpha UInt16))
  | rgb16 (r : Raster (Rgb UInt16))
  | rgba16 (r : Raster (Rgba UInt16))

/-- The eight pixel types. -/
inductive PixelType where
  | l8 | la8 | rgb8 | rgba8 | l16 | la16 | rgb16 | rgba16
  deriving DecidableEq, Repr

/-- The bytes that one pixel takes. -/
def PixelType.bytes : PixelType → Nat
  | .l8 => 1
  | .la8 => 2
  | .rgb8 => 3
  | .rgba8 => 4
  | .l16 => 2
  | .la16 => 4
  | .rgb16 => 6
  | .rgba16 => 8

/-- The nearest eight-bit sample: full intensity is 65535 on the one side and 255 on the other. -/
def shallow (v : UInt16) : UInt8 :=
  UInt8.ofNat ((v.toNat + 128) / 257)

namespace Picture

/-- The pixel type of a picture. -/
def pixelType : Picture → PixelType
  | .l8 _ => .l8
  | .la8 _ => .la8
  | .rgb8 _ => .rgb8
  | .rgba8 _ => .rgba8
  | .l16 _ => .l16
  | .la16 _ => .la16
  | .rgb16 _ => .rgb16
  | .rgba16 _ => .rgba16

/-- The columns of a picture. -/
def width : Picture → Nat
  | .l8 r | .la8 r | .rgb8 r | .rgba8 r | .l16 r | .la16 r | .rgb16 r | .rgba16 r => r.width

/-- The rows of a picture. -/
def height : Picture → Nat
  | .l8 r | .la8 r | .rgb8 r | .rgba8 r | .l16 r | .la16 r | .rgb16 r | .rgba16 r => r.height

/-- Rearrange the pixels, whatever their type. -/
def rearrange (f : {α : Type} → Raster α → Raster α) : Picture → Picture
  | .l8 r => .l8 (f r)
  | .la8 r => .la8 (f r)
  | .rgb8 r => .rgb8 (f r)
  | .rgba8 r => .rgba8 (f r)
  | .l16 r => .l16 (f r)
  | .la16 r => .la16 (f r)
  | .rgb16 r => .rgb16 (f r)
  | .rgba16 r => .rgba16 (f r)

/-- The picture in colour with opacity at eight bits a sample. -/
def toRgba8 : Picture → Raster (Rgba UInt8)
  | .l8 r => r.map fun v => ⟨v, v, v, 255⟩
  | .la8 r => r.map fun p => ⟨p.gray, p.gray, p.gray, p.alpha⟩
  | .rgb8 r => r.map fun p => ⟨p.red, p.green, p.blue, 255⟩
  | .rgba8 r => r
  | .l16 r => r.map fun v => ⟨shallow v, shallow v, shallow v, 255⟩
  | .la16 r => r.map fun p => ⟨shallow p.gray, shallow p.gray, shallow p.gray, shallow p.alpha⟩
  | .rgb16 r => r.map fun p => ⟨shallow p.red, shallow p.green, shallow p.blue, 255⟩
  | .rgba16 r =>
    r.map fun p => ⟨shallow p.red, shallow p.green, shallow p.blue, shallow p.alpha⟩

/-- The picture in colour at eight bits a sample; opacity is ignored. -/
def toRgb8 (p : Picture) : Raster (Rgb UInt8) :=
  p.toRgba8.map fun q => ⟨q.red, q.green, q.blue⟩

end Picture

end Cutout
