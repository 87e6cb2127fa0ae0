import Cutout.Codec.PrefixCode
import Cutout.Codec.Reading

/-!
# Segments

A file is a sequence of segments, each behind a marker: tables, notes and the frame, which says what
the picture is made of. Behind them come the scans with the samples.
-/

namespace Cutout.Jpeg

/-- The file breaks the rules of the format. -/
def fault (detail : String) : ImageFault :=
  .decoding .jpeg detail

/-- The file ends too early. -/
def short : ImageFault :=
  fault "no more bytes"

/-- The file needs what is not there. -/
def unsupported (detail : String) : ImageFault :=
  .unsupported (.feature .jpeg detail)

/-- A component of a picture: its number, how many of its blocks belong to one place, side by side
and one below the other, and the table that its strengths are scaled by. -/
structure Component where
  id : Nat
  across : Nat
  down : Nat
  scale : Nat
  deriving DecidableEq, Repr

/-- The size and the components of a picture. A frame in passes has several scans, each of which
makes the strengths more exact. -/
structure Frame where
  inPasses : Bool
  width : Nat
  height : Nat
  components : List Component
  deriving DecidableEq, Repr

/-- The most blocks of one component that lie side by side in a place. -/
def Frame.across (f : Frame) : Nat :=
  f.components.foldl (fun n c => max n c.across) 1

/-- The most blocks of one component that lie one below the other in a place. -/
def Frame.down (f : Frame) : Nat :=
  f.components.foldl (fun n c => max n c.down) 1

/-- How many blocks of eight samples are needed for a side. -/
def blocksFor (samples : Nat) : Nat :=
  (samples + 7) / 8

/-- The places side by side. -/
def Frame.placesAcross (f : Frame) : Nat :=
  (f.width + 8 * f.across - 1) / (8 * f.across)

/-- The places one below the other. -/
def Frame.placesDown (f : Frame) : Nat :=
  (f.height + 8 * f.down - 1) / (8 * f.down)

/-- Tables by their number; the latest one counts. -/
abbrev Tables (α : Type) := List (Nat × α)

/-- The table with this number. -/
def Tables.get? {α : Type} (t : Tables α) (n : Nat) : Option α :=
  (t.find? fun p => p.1 == n).map (·.2)

/-- What has been read in front of the scan. -/
structure Preface where
  frame : Option Frame
  /-- Scale factors in the order in which the strengths are stored. -/
  scales : Tables (List Nat)
  /-- Codes for the first strength of a block. -/
  steady : Tables PrefixCode
  /-- Codes for the other strengths. -/
  changing : Tables PrefixCode
  /-- The number of places between restarts; 0 without restarts. -/
  interval : Nat
  notes : Option Bytes
  /-- The colours are stored as they are, not as brightness and differences. -/
  hasPlainColors : Bool
  deriving DecidableEq, Repr

/-- Nothing has been read. -/
def Preface.empty : Preface :=
  ⟨none, [], [], [], 0, none, false⟩

/-- The part that a component plays in a scan: its number and the numbers of its codes. -/
structure Part where
  id : Nat
  steady : Nat
  changing : Nat
  deriving DecidableEq, Repr

/-- A scan: the components in it and, for one pass of several, the first and the last place of the
strengths, and the number of low bits that were and that are still left out. -/
structure Scan where
  parts : List Part
  first : Nat
  last : Nat
  before : Nat
  low : Nat
  deriving DecidableEq, Repr

/-! ## Segments -/

/-- The data of a segment: its length counts the two bytes of the length itself. -/
def segment : Reading Bytes := do
  let n ← Reading.big short 2
  if n < 2 then Reading.fail (fault "segment length") else Reading.bytes short (n - 2)

/-- Numbers of `size` bytes. -/
def numbers (size : Nat) : (n : Nat) → Bytes → List Nat
  | 0, _ => []
  | n + 1, b => Bytes.toNatBE (b.take size) :: numbers size n (b.drop size)

/-- The scale tables of a segment. -/
def readScales : (fuel : Nat) → Tables (List Nat) → Bytes → Except ImageFault (Tables (List Nat))
  | _, t, [] => .ok t
  | 0, _, _ => .error short
  | fuel + 1, t, x :: b =>
    let size := if x.toNat / 16 = 0 then 1 else 2
    match Bytes.take? (64 * size) b with
    | none => .error (fault "scale table")
    | some (data, b) => readScales fuel ((x.toNat % 16, numbers size 64 data) :: t) b

/-- The code tables of a segment. -/
def readCodes : (fuel : Nat) → Preface → Bytes → Except ImageFault Preface
  | _, p, [] => .ok p
  | 0, _, _ => .error short
  | fuel + 1, p, x :: b =>
    match Bytes.take? 16 b with
    | none => .error (fault "code table")
    | some (counts, b) =>
      let counts := counts.map UInt8.toNat
      match Bytes.take? (counts.foldl (· + ·) 0) b with
      | none => .error (fault "code table")
      | some (symbols, b) =>
        let c : PrefixCode := ⟨counts, (symbols.map UInt8.toNat).toArray⟩
        let n := x.toNat % 16
        if x.toNat / 16 = 0 then readCodes fuel { p with steady := (n, c) :: p.steady } b
        else readCodes fuel { p with changing := (n, c) :: p.changing } b

/-- The components of a frame. A place has blocks of a component in each direction. -/
def readComponents : (n : Nat) → Bytes → Except ImageFault (List Component)
  | 0, _ => .ok []
  | n + 1, id :: sampling :: scale :: b => do
    let across := sampling.toNat / 16
    let down := sampling.toNat % 16
    if across = 0 ∨ down = 0 then .error (unsupported "sampling")
    else
      let rest ← readComponents n b
      return ⟨id.toNat, across, down, scale.toNat⟩ :: rest
  | _ + 1, _ => .error (fault "frame")

/-- The places of a single component have one block. -/
def singleBlocks : List Component → List Component
  | [c] => [{ c with across := 1, down := 1 }]
  | cs => cs

/-- The frame of a segment. -/
def readFrame (inPasses : Bool) : Bytes → Except ImageFault Frame
  | depth :: h1 :: h0 :: w1 :: w0 :: n :: b => do
    let h := Bytes.toNatBE [h1, h0]
    let w := Bytes.toNatBE [w1, w0]
    if depth ≠ 8 then .error (fault "sample depth")
    else if w = 0 ∨ h = 0 then .error (fault "size")
    else if n ≠ 1 ∧ n ≠ 3 ∧ n ≠ 4 then .error (unsupported "components")
    else
      let components ← readComponents n.toNat b
      return ⟨inPasses, w, h, singleBlocks components⟩
  | _ => .error (fault "frame")

/-- The parts of a scan, and what follows. -/
def readParts : (n : Nat) → Bytes → Except ImageFault (List Part × Bytes)
  | 0, b => .ok ([], b)
  | n + 1, id :: codes :: b => do
    let (rest, b) ← readParts n b
    return (⟨id.toNat, codes.toNat / 16, codes.toNat % 16⟩ :: rest, b)
  | _ + 1, _ => .error (fault "scan")

/-- The scan of a segment. -/
def readScan : Bytes → Except ImageFault Scan
  | n :: b => do
    let (parts, b) ← readParts n.toNat b
    match b with
    | [first, last, bits] =>
      return ⟨parts, first.toNat, last.toNat, bits.toNat / 16, bits.toNat % 16⟩
    | _ => .error (fault "scan")
  | [] => .error (fault "scan")

/-- The frames whose samples come as they are. -/
def sequentialFrames : List Nat :=
  [0xC0, 0xC1]

/-- The frame whose samples come in passes. -/
def passesFrame : Nat := 0xC2

/-- Frames of other kinds. -/
def otherFrames : List Nat :=
  [0xC3, 0xC5, 0xC6, 0xC7, 0xC9, 0xCA, 0xCB, 0xCD, 0xCE, 0xCF]

/-- The text in front of a camera's notes. -/
def notesLead : Bytes :=
  Bytes.ofAscii "Exif\x00\x00"

/-- The text in front of a note about the colours. -/
def colorsLead : Bytes :=
  Bytes.ofAscii "Adobe"

/-- Take in a segment. -/
def Preface.withSegment (p : Preface) (marker : Nat) (data : Bytes) : Except ImageFault Preface :=
  if marker = 0xDB then do
    let t ← readScales data.length p.scales data
    return { p with scales := t }
  else if marker = 0xC4 then readCodes data.length p data
  else if sequentialFrames.contains marker ∨ marker = passesFrame then do
    if p.frame.isSome then .error (fault "second frame")
    else
      let f ← readFrame (marker = passesFrame) data
      return { p with frame := some f }
  else if otherFrames.contains marker then .error (unsupported "frame")
  else if marker = 0xDD then
    match data with
    | [x, y] => .ok { p with interval := Bytes.toNatBE [x, y] }
    | _ => .error (fault "restart interval")
  else if marker = 0xE1 then
    match Bytes.after? notesLead data with
    | some notes => .ok { p with notes := some notes }
    | none => .ok p
  else if marker = 0xEE then
    match Bytes.after? colorsLead data with
    | some note => .ok { p with hasPlainColors := note.getD 6 1 == 0 }
    | none => .ok p
  else .ok p

/-- Read segments up to a scan: what they hold, and the scan with what follows it. The end of the file
comes without a scan. -/
def readPreface : (fuel : Nat) → Preface → Bytes →
    Except ImageFault (Preface × Option (Scan × Bytes))
  | 0, _, _ => .error short
  | fuel + 1, p, b =>
    match b with
    | 0xFF :: marker :: b =>
      if marker = 0xFF then readPreface fuel p (0xFF :: b)
      else if marker = 0 then readPreface fuel p b
      else if marker = 0xD9 then .ok (p, none)
      else do
        let (data, b) ← segment b
        if marker = 0xDA then
          let s ← readScan data
          return (p, some (s, b))
        else
          let p ← p.withSegment marker.toNat data
          readPreface fuel p b
    | _ :: b => readPreface fuel p b
    | [] => .ok (p, none)

end Cutout.Jpeg
