import Cutout.Codec.Exif
import Cutout.Codec.Webp.Lossy.Decode
import Cutout.Codec.Webp.Opacity
import Cutout.Image.Source

/-!
# Opening files of chunks

The first chunk is the picture itself, lossless or lossy, or it announces what else there is: opacity,
notes, an animation, and the picture. Of an animation the first picture is read.
-/

namespace Cutout.Webp

/-! ## Pictures -/

/-- The parts of one picture. -/
inductive Stored where
  | lossless (data : Bytes)
  | lossy (data : Bytes) (opacity : Option Bytes)
  deriving DecidableEq, Repr

/-- A picture without its opacity. -/
def opaquely (r : Raster (Rgba UInt8)) : Raster (Rgb UInt8) :=
  r.map fun p => ⟨p.red, p.green, p.blue⟩

/-- The pixels of a lossy picture of a given size. -/
def lossy (w h : Nat) (data : Bytes) : Except ImageFault (Raster (Rgb UInt8)) := do
  let r ← Lossy.decode data
  if r.width = w ∧ r.height = h then return r else .error (fault "inconsistent image sizes")

/-- Pixels with their opacity. -/
def withOpacity (r : Raster (Rgb UInt8)) (alpha : Array UInt8) : Raster (Rgba UInt8) :=
  Raster.ofFn r.width r.height fun x y =>
    let p := r.getD x y ⟨0, 0, 0⟩
    ⟨p.red, p.green, p.blue, alpha.getD (y * r.width + x) 255⟩

/-- The pixels of a lossy picture of a given size, with opacity. -/
def lossyWithOpacity (w h : Nat) (data : Bytes) (alpha : Option Bytes) :
    Except ImageFault (Raster (Rgba UInt8)) := do
  let r ← lossy w h data
  match alpha with
  | none => .error (fault "missing chunk")
  | some alpha => return withOpacity r (← opacity w h alpha)

/-- The picture of some parts, with opacity or without. -/
def Stored.picture (w h : Nat) (hasAlpha : Bool) : Stored → Except ImageFault Picture
  | .lossless data => do
    let r ← Webp.lossless w h data
    return if hasAlpha then .rgba8 r else .rgb8 (opaquely r)
  | .lossy data alpha =>
    if hasAlpha then (lossyWithOpacity w h data alpha).map .rgba8 else (Webp.lossy w h data).map .rgb8

/-- The source of a picture. -/
def sourceOf (w h : Nat) (hasAlpha : Bool) (orientation : Except ImageFault (Option Orientation))
    (picture : Nat → Except ImageFault Picture) : Source where
  width := w
  height := h
  pixelType := if hasAlpha then .rgba8 else .rgb8
  orientation := orientation
  picture := picture

/-- Open a file that is one lossless picture. -/
def openLossless (data : Bytes) : Except ImageFault Source :=
  if data.length < 5 then .error .truncated
  else do
    let (head, _) ← readLosslessHead (Bits.ofBytes data)
    let (w, h) := (head.width, head.height)
    return sourceOf w h head.hasAlpha (.ok none) fun _ =>
      (Stored.lossless data).picture w h head.hasAlpha

/-- Open a file that is one lossy picture. -/
def openLossy (data : Bytes) : Except ImageFault Source := do
  let (f, _) ← Lossy.readFrame data
  return sourceOf f.width f.height false (.ok none) fun _ =>
    (Stored.lossy data none).picture f.width f.height false

/-! ## Animations -/

/-- The first picture of an animation: its place and its size, whether it lies over what was there, and
its parts. -/
structure AnimationFrame where
  left : Nat
  top : Nat
  width : Nat
  height : Nat
  isOver : Bool
  stored : Stored
  deriving DecidableEq, Repr

/-- The parts of a picture of an animation. -/
def readStored : Reading Stored := do
  let (name, size) ← chunkHead
  if name = losslessName then return .lossless (← Reading.bytes .truncated size)
  else if name = lossyName then return .lossy (← Reading.bytes .truncated size) none
  else if name = alphaName then
    let alpha ← Reading.bytes .truncated size
    let _ ← Reading.bytes .truncated (size % 2)
    let (name, size) ← chunkHead
    if name = lossyName then return .lossy (← Reading.bytes .truncated size) (some alpha)
    else Reading.fail (fault "unexpected chunk")
  else Reading.fail (fault "unexpected chunk")

/-- Read a picture of an animation. -/
def readAnimationFrame : Reading AnimationFrame := do
  let left ← Reading.little .truncated 3
  let top ← Reading.little .truncated 3
  let w ← Reading.little .truncated 3
  let h ← Reading.little .truncated 3
  let _ ← Reading.bytes .truncated 3
  let flags ← Reading.byte .truncated
  let stored ← readStored
  return ⟨2 * left, 2 * top, w + 1, h + 1, !flags.testBit 1, stored⟩

/-- The pixels of a picture of an animation. -/
def AnimationFrame.pixels (f : AnimationFrame) : Except ImageFault (Raster (Rgba UInt8)) :=
  match f.stored with
  | .lossless data => lossless f.width f.height data
  | .lossy data none =>
    (lossy f.width f.height data).map fun r => r.map fun p => ⟨p.red, p.green, p.blue, 255⟩
  | .lossy data alpha => lossyWithOpacity f.width f.height data alpha

/-- An animation of a given size as it begins: around its first picture nothing is seen. -/
def AnimationFrame.picture (f : AnimationFrame) (w h : Nat) (hasAlpha : Bool) :
    Except ImageFault Picture :=
  if w < f.left + f.width ∨ h < f.top + f.height then .error (fault "picture outside")
  else do
    let r ← f.pixels
    let whole : Raster (Rgba UInt8) := Raster.ofFn w h fun x y =>
      if x < f.left ∨ y < f.top then Rgba.clear
      else
        let p := r.getD (x - f.left) (y - f.top) Rgba.clear
        if f.isOver ∧ p.alpha = 0 then Rgba.clear else p
    return if hasAlpha then .rgba8 whole else .rgb8 (opaquely whole)

/-! ## Files -/

/-- Which parts a file has, and its size. -/
structure Extent where
  hasAlpha : Bool
  hasNotes : Bool
  hasOtherNotes : Bool
  isAnimated : Bool
  width : Nat
  height : Nat
  deriving DecidableEq, Repr

/-- Read which parts a file has. -/
def readExtent : Reading Extent := do
  let flags ← Reading.byte .truncated
  let _ ← Reading.bytes .truncated 3
  let w ← Reading.little .truncated 3
  let h ← Reading.little .truncated 3
  return ⟨flags.testBit 4, flags.testBit 3, flags.testBit 2, flags.testBit 1, w + 1, h + 1⟩

/-- Open an animation with some chunks. -/
def openAnimation (e : Extent) (cs : List Chunk)
    (orientation : Except ImageFault (Option Orientation)) : Except ImageFault Source :=
  match find? cs animationName, find? cs frameName with
  | some head, some frame => do
    if frame.length < 24 then .error (fault "chunk size")
    else if head.length < 6 then .error .truncated
    else
      return sourceOf e.width e.height e.hasAlpha orientation fun _ => do
        let (f, _) ← readAnimationFrame frame
        f.picture e.width e.height e.hasAlpha
  | _, _ => .error (fault "missing chunk")

/-- Open a file that announces its parts. -/
def openExtended (size : Nat) (b : Bytes) : Except ImageFault Source := do
  let (e, _) ← readExtent b
  let b := b.drop (size + size % 2)
  let cs := chunks b
  -- notes that are cut off are missed only when the picture is turned
  let orientation := (complete notesName b).map fun notes => notes.bind Exif.orientation?
  let picture (s : Stored) : Source :=
    sourceOf e.width e.height e.hasAlpha orientation fun _ => s.picture e.width e.height e.hasAlpha
  -- notes that are announced have to be there
  if e.hasNotes ∧ (find? cs notesName).isNone ∨ e.hasOtherNotes ∧ (find? cs otherNotesName).isNone then
    .error (fault "missing chunk")
  else if e.isAnimated then openAnimation e cs orientation
  else
    match find? cs losslessName, find? cs lossyName with
    | some data, none => return picture (.lossless data)
    | none, some data => return picture (.lossy data (find? cs alphaName))
    | _, _ => .error (fault "missing chunk")

/-- Open a file. -/
def openWebp (b : Bytes) : Except ImageFault Source := do
  let (_, b) ← content b
  let ((name, size), b) ← chunkHead b
  if name = losslessName then openLossless (b.take size)
  else if name = extendedName then openExtended size b
  else if name = lossyName then openLossy (b.take size)
  else .error (fault "unexpected chunk")

end Cutout.Webp
