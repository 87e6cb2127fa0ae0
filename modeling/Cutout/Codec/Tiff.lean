import Cutout.Codec.Exif
import Cutout.Image.Source
import Cutout.Text.Utf8

/-!
# Tagged images

A directory of numbered entries says everything about an image: its size, its samples, and where the
strips of its rows are. Numbers have the byte order that the file begins with. Strips are read here that
hold the samples as they are; other layouts are left to further readers.
-/

namespace Cutout.Tiff

open Exif (ByteOrder)

/-- The file breaks the rules of the format. -/
def malformed {α : Type} (detail : String) : Except ImageFault α :=
  .error (.decoding .tiff detail)

/-- The file needs what is not there. -/
def unsupported {α : Type} (detail : String) : Except ImageFault α :=
  .error (.unsupported (.feature .tiff detail))

/-- The `n` bytes at a place. -/
def bytesAt (b : Bytes) (place n : Nat) : Except ImageFault Bytes :=
  match Bytes.take? n (b.drop place) with
  | some (r, _) => .ok r
  | none => .error .truncated

/-! ## Directories -/

/-- An entry of a directory. Four bytes hold its values, or the place where they are. -/
structure Entry where
  tag : Nat
  kind : Nat
  count : Nat
  value : Bytes
  deriving DecidableEq, Repr

/-- The entries of a directory, and the place of the next directory, which is read and passed over. -/
def readEntries (o : ByteOrder) (b : Bytes) : (n place : Nat) → Except ImageFault (List Entry)
  | 0, place => do
    let _ ← bytesAt b place 4
    return []
  | n + 1, place => do
    let e ← bytesAt b place 12
    let rest ← readEntries o b n (place + 12)
    return {
      tag := o.number (e.take 2)
      kind := o.number ((e.drop 2).take 2)
      count := o.number ((e.drop 4).take 4)
      value := e.drop 8 } :: rest

/-- A file whose directory has been read. -/
structure File where
  bytes : Bytes
  order : ByteOrder
  entries : List Entry

/-- Read the directory of a file. -/
def readFile (b : Bytes) : Except ImageFault File := do
  let magic ← bytesAt b 0 4
  match Exif.byteOrder? magic with
  | none => malformed "signature"
  | some o =>
    let place := o.number (← bytesAt b 4 4)
    let n := o.number (← bytesAt b place 2)
    let entries ← readEntries o b n (place + 2)
    return ⟨b, o, entries⟩

/-- The bytes of one value of a kind, of those that are known. -/
def kindSize? : (kind : Nat) → Option Nat
  | 1 | 2 | 6 | 7 => some 1
  | 3 | 8 => some 2
  | 4 | 9 | 11 | 13 => some 4
  | 5 | 10 | 12 | 16 | 17 | 18 => some 8
  | _ => none

/-- The entry with this tag: the last one of a known kind. -/
def File.entry? (f : File) (tag : Nat) : Option Entry :=
  f.entries.reverse.find? fun e => e.tag == tag && (kindSize? e.kind).isSome

/-- The kinds of longer numbers, and of places in the file, which are not read here. -/
def longKinds : List Nat :=
  [13, 16, 18]

/-- The bytes of one value: unsigned numbers have one, two or four. -/
def valueSize? : (kind : Nat) → Option Nat
  | 1 => some 1
  | 3 => some 2
  | 4 => some 4
  | _ => none

/-- Cut into numbers of `size` bytes. -/
def File.cut (f : File) (size : Nat) : (n : Nat) → Bytes → List Nat
  | 0, _ => []
  | n + 1, b => f.order.number (b.take size) :: f.cut size n (b.drop size)

/-- The values of an entry. -/
def File.values (f : File) (e : Entry) : Except ImageFault (List Nat) :=
  match valueSize? e.kind with
  | none =>
    if longKinds.contains e.kind then unsupported "long numbers"
    else malformed "expected unsigned integer"
  | some size =>
    let total := size * e.count
    if total ≤ 4 then .ok (f.cut size e.count e.value)
    else do
      let b ← bytesAt f.bytes (f.order.number e.value) total
      return f.cut size e.count b

/-- The values of the entry with this tag, if there is one. -/
def File.list? (f : File) (tag : Nat) : Except ImageFault (Option (List Nat)) :=
  match f.entry? tag with
  | none => .ok none
  | some e => (f.values e).map some

/-- The first value of the entry with this tag; `default` without the entry. -/
def File.number (f : File) (tag default : Nat) : Except ImageFault Nat := do
  match ← f.list? tag with
  | none => return default
  | some [] => malformed "no value"
  | some (n :: _) => return n

/-- The values of an entry that has to be there. -/
def File.list (f : File) (tag : Nat) : Except ImageFault (List Nat) := do
  match ← f.list? tag with
  | none => malformed "required tag not found"
  | some ns => return ns

/-! ## Notes -/

/-- The kind of texts. -/
def textKind : Nat := 2

/-- The kinds of numbers without a sign. -/
def numberKinds : List Nat :=
  [1, 3, 4, 16]

/-- A text in an entry is in ASCII and ends with a zero; elsewhere it is in UTF-8 up to a zero. -/
def File.checkText (f : File) (e : Entry) : Except ImageFault Unit :=
  if e.count = 0 then .ok ()
  else if e.count ≤ 4 then
    let text := e.value.take e.count
    if text.all (· < 0x80) && text.getLast? == some 0 then .ok () else malformed "invalid tag"
  else do
    let text ← bytesAt f.bytes (f.order.number e.value) e.count
    if (Text.ofUtf8? (text.takeWhile (· != 0))).isSome then .ok () else malformed "invalid tag"

/-- The values of an entry as they are stored. -/
def File.dataOf (f : File) (e : Entry) : Except ImageFault Bytes :=
  let size := (kindSize? e.kind).getD 0 * e.count
  if size ≤ 4 then .ok (e.value.take size) else bytesAt f.bytes (f.order.number e.value) size

/-- The number in an entry, if it holds a single one. Other values say nothing, but they have to be
there. -/
def File.noteOf (f : File) (e : Entry) : Except ImageFault (Option Nat) :=
  if e.kind = textKind then (f.checkText e).map fun _ => none
  else (f.dataOf e).map fun b =>
    if e.count = 1 ∧ numberKinds.contains e.kind then some (f.order.number b) else none

/-- The number in the entry with this tag. -/
def File.note? (f : File) (tag : Nat) : Except ImageFault (Option Nat) :=
  match f.entry? tag with
  | none => .ok none
  | some e => f.noteOf e

/-- How the picture is to be turned. -/
def File.orientation (f : File) : Except ImageFault (Option Orientation) :=
  (f.note? Exif.orientationNote).map fun n => n.bind Orientation.ofTag?

/-! ## Samples -/

/-- What the samples of a pixel are. -/
inductive Colors where
  | gray
  | inverseGray
  | rgb
  | rgba
  deriving DecidableEq, Repr

/-- The number of samples of a pixel. -/
def Colors.channels : Colors → Nat
  | gray | inverseGray => 1
  | rgb => 3
  | rgba => 4

/-- The colours of an interpretation with a number of samples. -/
def Colors.of (interpretation samples : Nat) : Except ImageFault Colors :=
  match interpretation, samples with
  | 0, 1 => .ok .inverseGray
  | 1, 1 => .ok .gray
  | 2, 3 => .ok .rgb
  | 2, 4 => .ok .rgba
  | _, _ => unsupported "interpretation"

/-- A strip of rows. -/
structure Strip where
  place : Nat
  size : Nat
  deriving DecidableEq, Repr

/-- How the pixels are stored. -/
structure Layout where
  width : Nat
  height : Nat
  colors : Colors
  /-- The bytes of a sample. -/
  depth : Nat
  rowsPerStrip : Nat
  strips : List Strip
  deriving DecidableEq, Repr

/-- The bytes of a sample of some bits. -/
def depthOf : (bits : List Nat) → Except ImageFault Nat
  | [] => malformed "no value"
  | n :: rest =>
    if rest.any (· != n) then unsupported "inconsistent bits per sample"
    else if n = 8 then .ok 1
    else if n = 16 then .ok 2
    else unsupported "bits per sample"

/-- Read how the pixels are stored. -/
def File.layout (f : File) : Except ImageFault Layout := do
  let w ← f.number 256 0
  let h ← f.number 257 0
  if w = 0 ∨ h = 0 then malformed "invalid dimensions"
  else
    let interpretation ← f.number 262 65535
    let compression ← f.number 259 1
    let samples ← f.number 277 1
    let bits ← f.list? 258
    let format ← f.number 339 1
    let predictor ← f.number 317 1
    let planes ← f.number 284 1
    let inTiles := (f.entry? 324).isSome || (f.entry? 325).isSome
    let colors ← Colors.of interpretation samples
    if compression ≠ 1 ∨ format ≠ 1 ∨ predictor ≠ 1 ∨ planes ≠ 1 ∨ inTiles then unsupported "layout"
    else
      let depth ← depthOf (bits.getD [1])
      let places ← f.list 273
      let sizes ← f.list 279
      let rows ← f.number 278 h
      if places.length ≠ sizes.length ∨ rows = 0 then malformed "inconsistent strips"
      else
        let strips := places.zipWith Strip.mk sizes
        if strips.length < (h + rows - 1) / rows then malformed "inconsistent strips"
        else return ⟨w, h, colors, depth, rows, strips⟩

/-- The bytes of a row. -/
def Layout.rowBytes (l : Layout) : Nat :=
  l.width * l.colors.channels * l.depth

/-- The rows in the strips, where `rows` are still to come. Each strip is held on its own first. -/
def readStrips (b : Bytes) (l : Layout) (memory : Nat) :
    (rows : Nat) → List Strip → Except ImageFault Bytes
  | 0, _ => .ok []
  | _ + 1, [] => .ok []
  | rows + 1, s :: strips =>
    let n := min (rows + 1) l.rowsPerStrip
    let size := n * l.rowBytes
    if memory < s.size then .error (.limits .memory)
    else if s.size < size then .error .truncated
    else do
      let data ← bytesAt b s.place size
      let rest ← readStrips b l memory (rows + 1 - n) strips
      return data ++ rest

/-- The sample at an index. -/
def File.sample (f : File) (l : Layout) (data : Array UInt8) (i : Nat) : Nat :=
  let n := f.order.number ((List.range l.depth).map fun k => data.getD (i * l.depth + k) 0)
  if l.colors = .inverseGray then Nat.pow 256 l.depth - 1 - n else n

/-- The picture of some data. -/
def File.assemble (f : File) (l : Layout) (data : Array UInt8) : Picture :=
  let sample (x y c : Nat) : Nat := f.sample l data ((y * l.width + x) * l.colors.channels + c)
  let whole {α : Type} (g : (Nat → Nat) → α) : Raster α :=
    Raster.ofFn l.width l.height fun x y => g (sample x y)
  let byte := UInt8.ofNat
  let word := UInt16.ofNat
  match l.colors, l.depth with
  | .rgb, 1 => .rgb8 (whole fun s => ⟨byte (s 0), byte (s 1), byte (s 2)⟩)
  | .rgb, _ => .rgb16 (whole fun s => ⟨word (s 0), word (s 1), word (s 2)⟩)
  | .rgba, 1 => .rgba8 (whole fun s => ⟨byte (s 0), byte (s 1), byte (s 2), byte (s 3)⟩)
  | .rgba, _ => .rgba16 (whole fun s => ⟨word (s 0), word (s 1), word (s 2), word (s 3)⟩)
  | _, 1 => .l8 (whole fun s => byte (s 0))
  | _, _ => .l16 (whole fun s => word (s 0))

/-- The pixel type of a layout. -/
def Layout.pixelType (l : Layout) : PixelType :=
  match l.colors, l.depth with
  | .rgb, 1 => .rgb8
  | .rgb, _ => .rgb16
  | .rgba, 1 => .rgba8
  | .rgba, _ => .rgba16
  | _, 1 => .l8
  | _, _ => .l16

/-- Read the pixels. They are held a second time while the strips are read. -/
def File.picture (f : File) (l : Layout) (memory : Nat) : Except ImageFault Picture := do
  let size := l.height * l.rowBytes
  if memory < size then .error (.limits .memory)
  else
    let data ← readStrips f.bytes l (memory - size) l.height l.strips
    return f.assemble l data.toArray

/-- Read everything but the pixels. -/
def openTiff [FurtherReaders] (b : Bytes) : Except ImageFault Source := do
  let f ← readFile b
  match f.layout with
  | .error (.unsupported u) => FurtherReaders.openOr u .tiff b f.orientation
  | .error e => .error e
  | .ok l =>
    return {
      width := l.width
      height := l.height
      pixelType := l.pixelType
      orientation := f.orientation
      picture := f.picture l }

end Cutout.Tiff
