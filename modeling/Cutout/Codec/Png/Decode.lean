import Cutout.Codec.Exif
import Cutout.Codec.Inflate
import Cutout.Codec.Png.Rows
import Cutout.Image.Source

/-!
# Reading pictures

`openPng` reads the chunks in front of the pixels. The chunks with the pixels follow each other and
hold one compressed stream; a file is complete when the kind of the chunk behind them can be read.
-/

namespace Cutout.Png

/-! ## In front of the pixels -/

/-- What is known in front of the pixels. -/
structure Preface where
  header : Header
  palette : Option Bytes
  transparency : Option Bytes
  notes : Option Bytes
  deriving DecidableEq, Repr

/-- Keep the data of a transparency chunk if it suits the kind of colour. -/
def Preface.withTransparency (p : Preface) (data : Bytes) : Preface :=
  let fits :=
    match p.header.color with
    | .gray => 2 ≤ data.length
    | .rgb => 6 ≤ data.length
    | .indexed => p.palette.isSome
    | .grayAlpha | .rgba => false
  if fits && p.transparency.isNone then { p with transparency := some data } else p

/-- Take in a chunk. A chunk that can be ignored is ignored if its checksum is wrong. -/
def Preface.withChunk (p : Preface) (k : Kind) (data : Bytes) (intact : Bool) :
    Except ImageFault Preface :=
  if isCritical k then
    if !intact then malformed "wrong checksum"
    else if k = paletteKind then
      if p.palette.isSome then malformed "second palette"
      else .ok { p with palette := some data }
    else if k = headerKind then malformed "second header"
    else malformed "no pixels"
  else if !intact then .ok p
  else if k = transparencyKind then .ok (p.withTransparency data)
  else if k = notesKind && p.notes.isNone then .ok { p with notes := some data }
  else .ok p

/-- Read chunks up to the first one with pixels: how long that is, and what it begins with. -/
def readPreface : (fuel : Nat) → Preface → Bytes → Except ImageFault (Preface × Nat × Bytes)
  | 0, _, _ => .error .truncated
  | fuel + 1, p, b => do
    let (n, k, b) ← chunkStart b
    if k = pixelsKind then return (p, n, b)
    else if isCritical k && !criticalKinds.contains k then malformed "unknown critical chunk"
    else
      let (data, intact, b) ← chunkBody n k b
      let p ← p.withChunk k data intact
      readPreface fuel p b

/-- Read the header and the chunks up to the first one with pixels. -/
def preface (b : Bytes) : Except ImageFault (Preface × Nat × Bytes) := do
  let (_, b) ← take 8 b
  let (n, k, b) ← chunkStart b
  if k ≠ headerKind then malformed "no header"
  else
    let (data, intact, b) ← chunkBody n k b
    if !intact then malformed "wrong checksum"
    else
      let h ← Header.read data
      let (p, n, b) ← readPreface b.length ⟨h, none, none, none⟩ b
      if h.color = .indexed && p.palette.isNone then malformed "no palette"
      else return (p, n, b)

/-! ## The compressed stream -/

/-- How the chunks with pixels end. -/
inductive Ending where
  /-- Another chunk follows. -/
  | whole
  /-- The file ends first. -/
  | cut
  /-- A checksum is wrong. -/
  | damaged
  deriving DecidableEq, Repr

/-- The stream that the chunks with pixels hold together, from one of `n` bytes on. -/
def stream : (fuel n : Nat) → Bytes → Bytes × Ending
  | 0, _, _ => ([], .cut)
  | fuel + 1, n, b =>
    match Bytes.take? n b with
    | none => (b, .cut)
    | some (data, b) =>
      match Bytes.take? 4 b with
      | none => (data, .cut)
      | some (sum, b) =>
        if sum ≠ check pixelsKind data then (data, .damaged)
        else
          -- the stream is whole once it is known that it does not go on
          match chunkStart b with
          | .error _ => (data, .cut)
          | .ok (n, k, b) =>
            if k = pixelsKind then
              let (rest, e) := stream fuel n b
              (data ++ rest, e)
            else (data, .whole)

/-- The rows in a stream that is complete. -/
def wholeRows (h : Header) (s : Bytes) : Except ImageFault (List (Pass × Array (Array UInt8))) :=
  match Inflate.unpack s with
  | .error _ => malformed "corrupt stream"
  | .ok out =>
    match readPasses h h.passes out.toList with
    | .ok rows => .ok rows
    | .error _ => malformed "bad rows"

/-- The fault of a stream that the end of the file cuts off: what is there may be wrong already. -/
def cutFault (h : Header) (s : Bytes) : ImageFault :=
  let rows (out : Array UInt8) : ImageFault :=
    match readPasses h h.passes out.toList with
    | .error .unknownFilter => .decoding .png "bad rows"
    | _ => .truncated
  match Inflate.unpack s with
  | .error .corrupt => .decoding .png "corrupt stream"
  | .error (.starved out) => rows out
  | .ok out => rows out

/-- The rows of a picture. -/
def rows (h : Header) (n : Nat) (b : Bytes) :
    Except ImageFault (List (Pass × Array (Array UInt8))) :=
  match stream (b.length + 1) n b with
  | (s, .whole) => wholeRows h s
  | (s, .cut) => .error (cutFault h s)
  | (_, .damaged) => malformed "wrong checksum"

/-! ## Pixels -/

/-- The pixel type of a picture. -/
def Preface.pixelType (p : Preface) : PixelType :=
  let clear := p.transparency.isSome
  let deep := p.header.depth = 16
  match p.header.color with
  | .gray =>
    if deep then (if clear then .la16 else .l16) else if clear then .la8 else .l8
  | .rgb =>
    if deep then (if clear then .rgba16 else .rgb16) else if clear then .rgba8 else .rgb8
  | .indexed => if clear then .rgba8 else .rgb8
  | .grayAlpha => if deep then .la16 else .la8
  | .rgba => if deep then .rgba16 else .rgba8

/-- The samples of the one colour that is transparent: the low bytes if samples are no deeper. No
colour is transparent if a deep one is not exactly given. -/
def Preface.keyColor (p : Preface) : List Nat :=
  match p.transparency with
  | none => []
  | some b =>
    let n := p.header.color.channels
    if p.header.depth = 16 then
      if b.length = 2 * n then
        (List.range n).map fun c => Bytes.toNatBE ((b.drop (2 * c)).take 2)
      else []
    else (List.range n).map fun c => (b.getD (2 * c + 1) 0).toNat

/-- A colour of the palette; black outside of it. -/
def paletteColor (palette : Bytes) (i : Nat) : Rgb UInt8 :=
  match (palette.drop (3 * i)).take 3 with
  | [r, g, b] => ⟨r, g, b⟩
  | _ => ⟨0, 0, 0⟩

/-- The picture of some samples. -/
def Preface.assemble (p : Preface) (at? : Nat → Nat → List Nat) : Picture :=
  let h := p.header
  let whole {α : Type} (f : List Nat → α) : Raster α :=
    Raster.ofFn h.width h.height fun x y => f (at? x y)
  let key := p.keyColor
  let byte (n : Nat) : UInt8 := UInt8.ofNat n
  let word (n : Nat) : UInt16 := UInt16.ofNat n
  let get (s : List Nat) (i : Nat) : Nat := s.getD i 0
  let scaled (s : List Nat) : UInt8 := byte (get s 0 * 255 / (1 <<< h.depth - 1))
  let full (s : List Nat) (top : Nat) : Nat := if s = key then 0 else top
  let palette := p.palette.getD []
  let clear := p.transparency.getD []
  match h.color, p.pixelType with
  | .gray, .l16 => .l16 (whole fun s => word (get s 0))
  | .gray, .la16 => .la16 (whole fun s => ⟨word (get s 0), word (full s 65535)⟩)
  | .gray, .la8 => .la8 (whole fun s => ⟨scaled s, byte (full s 255)⟩)
  | .gray, _ => .l8 (whole scaled)
  | .rgb, .rgb16 => .rgb16 (whole fun s => ⟨word (get s 0), word (get s 1), word (get s 2)⟩)
  | .rgb, .rgba16 =>
    .rgba16 (whole fun s =>
      ⟨word (get s 0), word (get s 1), word (get s 2), word (full s 65535)⟩)
  | .rgb, .rgba8 =>
    .rgba8 (whole fun s => ⟨byte (get s 0), byte (get s 1), byte (get s 2), byte (full s 255)⟩)
  | .rgb, _ => .rgb8 (whole fun s => ⟨byte (get s 0), byte (get s 1), byte (get s 2)⟩)
  | .indexed, .rgba8 =>
    .rgba8 (whole fun s =>
      let c := paletteColor palette (get s 0)
      ⟨c.red, c.green, c.blue, clear.getD (get s 0) 255⟩)
  | .indexed, _ => .rgb8 (whole fun s => paletteColor palette (get s 0))
  | .grayAlpha, .la16 => .la16 (whole fun s => ⟨word (get s 0), word (get s 1)⟩)
  | .grayAlpha, _ => .la8 (whole fun s => ⟨byte (get s 0), byte (get s 1)⟩)
  | .rgba, .rgba16 =>
    .rgba16 (whole fun s => ⟨word (get s 0), word (get s 1), word (get s 2), word (get s 3)⟩)
  | .rgba, _ =>
    .rgba8 (whole fun s => ⟨byte (get s 0), byte (get s 1), byte (get s 2), byte (get s 3)⟩)

/-- Read what is in front of the pixels. A single row can ask for too much memory. -/
def openPng (b : Bytes) : Except ImageFault Source := do
  let (p, n, rest) ← preface b
  let h := p.header
  if memoryLimit < h.width * p.pixelType.bytes then .error (.limits .memory)
  else
    return {
      width := h.width
      height := h.height
      pixelType := p.pixelType
      orientation := .ok (p.notes.bind Exif.orientation?)
      picture := fun _ => (rows h n rest).map fun r => p.assemble (samplesAt h r) }

end Cutout.Png
