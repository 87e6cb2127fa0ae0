import Cutout.Codec.Bits
import Cutout.Codec.Reading
import Cutout.Image.Source

/-!
# Indexed animations

Of an animation only the first frame is read. A frame is a rectangle on the screen; its pixels are
entries of its own palette or of the palette of the file, one entry can be transparent, and its rows
may be stored in four passes. The entries are written in words of growing length that name runs seen
before.
-/

namespace Cutout.Gif

/-- The file breaks the rules of the format. -/
def fault (detail : String) : ImageFault :=
  .decoding .gif detail

/-- The file ends too early. -/
def short : ImageFault :=
  fault "unexpected end of file"

/-! ## Runs -/

/-- A run of entries that have been written: where it starts and how long it is. -/
structure Run where
  start : Nat
  length : Nat
  deriving DecidableEq, Repr

/-- The state of unpacking. The words below `2 ^ least` are entries; the next two restart and end the
sequence, and the words behind them are runs. -/
structure Unpacking where
  /-- The runs that have a word. -/
  runs : Array Run
  /-- The length of the next word. -/
  width : Nat
  /-- The run that was written last. -/
  last : Option Run
  written : Array UInt8
  deriving DecidableEq, Repr

/-- The longest word. -/
def longestWord : Nat := 12

/-- Write the entries of a run again, one by one, so that a run can go on into itself. -/
def repeatRun (start : Nat) : (n : Nat) → Array UInt8 → Array UInt8
  | 0, out => out
  | n + 1, out => repeatRun (start + 1) n (out.push (out.getD start 0))

/-- The state after `written` has been extended by a run: the last run and the first entry of this
one get a word of their own, as long as there are words left. -/
def Unpacking.extend (least : Nat) (u : Unpacking) (written : Array UInt8) : Unpacking :=
  let run : Run := ⟨u.written.size, written.size - u.written.size⟩
  match u.last with
  | none => { u with last := some run, written := written }
  | some last =>
    let words := 1 <<< least + 2 + u.runs.size
    if words = 1 <<< longestWord then { u with last := some run, written := written }
    else
      { runs := u.runs.push ⟨last.start, last.length + 1⟩
        width := if words + 1 = 1 <<< u.width ∧ u.width < longestWord then u.width + 1 else u.width
        last := some run
        written := written }

/-- Read words until `n` entries are written, the sequence ends, or the bits do. -/
def unpackFrom (least n : Nat) : (fuel : Nat) → Unpacking → Bits → Except ImageFault (Array UInt8)
  | 0, u, _ => .ok u.written
  | fuel + 1, u, b =>
    if n ≤ u.written.size then .ok u.written
    else
      match b.lowNumber? u.width with
      | none => .ok u.written
      | some (word, b) =>
        let restart := 1 <<< least
        if word < restart then
          unpackFrom least n fuel (u.extend least (u.written.push (UInt8.ofNat word))) b
        -- from here on no run has a word
        else if word = restart then
          unpackFrom least n fuel
            { runs := #[], width := least + 1, last := none, written := u.written } b
        else if word = restart + 1 then .ok u.written
        else
          let i := word - (restart + 2)
          match u.runs[i]?, u.last with
          | some run, _ =>
            unpackFrom least n fuel
              (u.extend least (repeatRun run.start run.length u.written)) b
          | none, some last =>
            -- the first word without a run stands for the run that gets it now
            if i = u.runs.size ∧ word < 1 <<< longestWord then
              unpackFrom least n fuel
                (u.extend least (repeatRun last.start (last.length + 1) u.written)) b
            else .error (fault "invalid code in LZW stream")
          | none, none => .error (fault "invalid code in LZW stream")

/-- The first `n` entries that are packed in some bytes. -/
def unpack (least n : Nat) (b : Bytes) : Except ImageFault (Array UInt8) := do
  let out ← unpackFrom least n (8 * b.length + 1)
    { runs := #[], width := least + 1, last := none, written := #[] } (Bits.ofBytes b)
  if out.size < n then .error (fault "not enough image data") else return out

/-! ## Blocks -/

/-- Colours, by their number. -/
abbrev Palette := Array (Rgb UInt8)

/-- The colours of a palette that is written out. -/
def paletteOf : Bytes → List (Rgb UInt8)
  | r :: g :: b :: rest => ⟨r, g, b⟩ :: paletteOf rest
  | _ => []

/-- The palette that some flags announce. -/
def readPalette (flags : Nat) : Reading (Option Palette) := do
  if flags.testBit 7 then
    let b ← Reading.bytes short (3 <<< (flags % 8 + 1))
    return some (paletteOf b).toArray
  else return none

/-- The data of the blocks up to an empty one, or up to the end of the file, and what follows if
the empty one is there. -/
def blocksFrom : (fuel : Nat) → Bytes → Bytes × Option Bytes
  | 0, _ => ([], none)
  | _ + 1, [] => ([], none)
  | fuel + 1, n :: b =>
    if n = 0 then ([], some b)
    else
      let (rest, after) := blocksFrom fuel (b.drop n.toNat)
      (b.take n.toNat ++ rest, after)

/-- The data of blocks. -/
def blocks (b : Bytes) : Bytes × Option Bytes :=
  blocksFrom (b.length + 1) b

/-- Pass over blocks. -/
def skipBlocks : Reading Unit :=
  fun b =>
    match blocks b with
    | (_, some rest) => .ok ((), rest)
    | (_, none) => .error short

/-- The screen of a file, and its palette. -/
structure Screen where
  width : Nat
  height : Nat
  palette : Option Palette

/-- Read what stands in front of the blocks. -/
def readScreen : Reading Screen := do
  let _ ← Reading.bytes short 6
  let w ← Reading.little short 2
  let h ← Reading.little short 2
  let flags ← Reading.byte short
  let _ ← Reading.bytes short 2
  let palette ← readPalette flags
  return ⟨w, h, palette⟩

/-- The extensions whose blocks are passed over: plain text, comments and those of applications. -/
def passedOver : List Nat :=
  [0x01, 0xFE, 0xFF]

/-- Read an extension: the transparent entry after it. -/
def readExtension (transparent : Option UInt8) : Reading (Option UInt8) := do
  let label ← Reading.byte short
  if label = 0xF9 then
    let size ← Reading.byte short
    if size ≠ 4 then Reading.fail (fault "control extension has wrong length")
    else
      let flags ← Reading.byte short
      let _ ← Reading.bytes short 2
      let entry ← Reading.byte short
      let ending ← Reading.byte short
      if ending ≠ 0 then Reading.fail (fault "expected block terminator not found")
      else if flags.testBit 0 ∨ transparent.isSome then return some (UInt8.ofNat entry)
      else return none
  else if passedOver.contains label then
    skipBlocks
    return transparent
  else Reading.fail (fault "unknown extension block encountered")

/-! ## Frames -/

/-- A frame. -/
structure Frame where
  left : Nat
  top : Nat
  width : Nat
  height : Nat
  inPasses : Bool
  palette : Palette
  transparent : Option UInt8
  /-- The entries of the pixels, in the order in which they are stored. -/
  entries : Array UInt8

/-- Where a row is stored: in passes, every eighth row comes first, then those in the middle between
them, then every second and every first row that is left. -/
def Frame.storedRow (f : Frame) (y : Nat) : Nat :=
  if !f.inPasses then y
  else if y % 8 = 0 then y / 8
  else if y % 8 = 4 then (f.height + 7) / 8 + y / 8
  else if y % 4 = 2 then (f.height + 3) / 4 + y / 4
  else (f.height + 1) / 2 + y / 2

/-- The pixel of an entry: the transparent entry keeps its colour, and an entry without colour is
clear. -/
def Frame.pixelOf (f : Frame) (entry : UInt8) : Rgba UInt8 :=
  match f.palette[entry.toNat]? with
  | some c => ⟨c.red, c.green, c.blue, if f.transparent = some entry then 0 else 255⟩
  | none => Rgba.clear

/-- A pixel of the screen that the frame is put on. -/
def Frame.pixelAt (f : Frame) (x y : Nat) : Rgba UInt8 :=
  if f.left ≤ x ∧ x < f.left + f.width ∧ f.top ≤ y ∧ y < f.top + f.height then
    match f.entries[f.storedRow (y - f.top) * f.width + (x - f.left)]? with
    | some e => f.pixelOf e
    | none => Rgba.clear
  else Rgba.clear

/-- The memory that a frame takes besides the screen: none if its rows are rows of the screen. -/
def Screen.extra (s : Screen) (left top w h : Nat) : Nat :=
  if left = 0 ∧ w = s.width ∧ top + h ≤ s.height then 0 else w * h * PixelType.rgba8.bytes

/-- Read a frame. -/
def readFrame (s : Screen) (memory : Nat) (transparent : Option UInt8) : Reading Frame := do
  let left ← Reading.little short 2
  let top ← Reading.little short 2
  let w ← Reading.little short 2
  let h ← Reading.little short 2
  let flags ← Reading.byte short
  let own ← readPalette flags
  let least ← Reading.byte short
  if least = 0 ∨ 11 < least then Reading.fail (fault "invalid minimal code size")
  else
    match own <|> s.palette with
    | none => Reading.fail (fault "no color table available for current frame")
    | some palette =>
      if memory < s.extra left top w h then Reading.fail (.limits .memory)
      else
        let entries ← fun b => (unpack least (w * h) (blocks b).1).map fun e => (e, [])
        return {
          left := left, top := top, width := w, height := h, inPasses := flags.testBit 6
          palette := palette, transparent := transparent, entries := entries }

/-- Read up to the first frame, and the frame. -/
def firstFrame (s : Screen) (memory : Nat) :
    (fuel : Nat) → (transparent : Option UInt8) → Reading Frame
  | 0, _ => Reading.fail short
  | fuel + 1, transparent => do
    let kind ← Reading.byte short
    if kind = 0x2C then readFrame s memory transparent
    else if kind = 0x21 then
      let transparent ← readExtension transparent
      firstFrame s memory fuel transparent
    else if kind = 0x3B then Reading.fail (.parameter "The end of the image has been reached")
    else Reading.fail (fault "unknown block type encountered")

/-- Read the screen of an animation. -/
def openGif (b : Bytes) : Except ImageFault Source := do
  let (s, rest) ← readScreen b
  return {
    width := s.width
    height := s.height
    pixelType := .rgba8
    orientation := .ok none
    picture := fun memory => do
      let (f, _) ← firstFrame s memory (rest.length + 1) none rest
      return .rgba8 (Raster.ofFn s.width s.height f.pixelAt) }

end Cutout.Gif
