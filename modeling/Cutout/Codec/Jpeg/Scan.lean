import Cutout.Codec.Jpeg.Block

/-!
# Scans

A scan visits the places of a picture row by row. A place has some blocks of each component in the
scan; where a single component is scanned, a place is one block. Between restarts, what is known about
the blocks before is forgotten.
-/

namespace Cutout.Jpeg

/-! ## Planes -/

/-- The blocks of all components, each row by row. -/
abbrev Planes := Array (Array Block)

/-- Planes without any strength. -/
def Frame.planes (f : Frame) : Planes :=
  (f.components.map fun c =>
    Array.replicate (f.placesAcross * c.across * (f.placesDown * c.down)) Block.zero).toArray

/-- A block: the part of the scan that it belongs to, and its number in the plane. -/
structure Spot where
  reader : Reader
  number : Nat

/-- What a scan reads a component with. -/
structure Scanned where
  component : Component
  reader : Reader

/-- The blocks of a component at a place. -/
def Frame.spots (f : Frame) (place : Nat) (p : Scanned) : List Spot :=
  let column := place % f.placesAcross * p.component.across
  let row := place / f.placesAcross * p.component.down
  (List.range p.component.down).flatMap fun dy => (List.range p.component.across).map fun dx =>
    ⟨p.reader, (row + dy) * (f.placesAcross * p.component.across) + column + dx⟩

/-- The blocks of a component side by side that show something of the picture. -/
def Frame.blocksAcross (f : Frame) (c : Component) : Nat :=
  blocksFor ((f.width * c.across + f.across - 1) / f.across)

/-- The blocks of a component one below the other that show something of the picture. -/
def Frame.blocksDown (f : Frame) (c : Component) : Nat :=
  blocksFor ((f.height * c.down + f.down - 1) / f.down)

/-- The number of places in a scan of some components. -/
def Frame.placeCount (f : Frame) : List Scanned → Nat
  | [p] => f.blocksAcross p.component * f.blocksDown p.component
  | _ => f.placesAcross * f.placesDown

/-- The blocks at a place of a scan of some components. -/
def Frame.spotsOf (f : Frame) (parts : List Scanned) (place : Nat) : List Spot :=
  match parts with
  | [p] =>
    let across := f.blocksAcross p.component
    [⟨p.reader, place / across * (f.placesAcross * p.component.across) + place % across⟩]
  | ps => ps.flatMap (f.spots place)

/-! ## Reading -/

/-- The bytes of a scan, divided at its restarts, and what follows the scan. A zero byte follows each
byte of ones, and the first other marker ends the scan. -/
def pieces : (now : Bytes) → (done : List Bytes) → Bytes → List Bytes × Bytes
  | now, done, [] => ((now.reverse :: done).reverse, [])
  | now, done, 0xFF :: x :: b =>
    if x = 0 then pieces (0xFF :: now) done b
    -- the eight restart markers are `0xD0` to `0xD7`
    else if x.toNat / 8 = 26 then pieces [] (now.reverse :: done) b
    else if x = 0xFF then pieces now done (x :: b)
    else ((now.reverse :: done).reverse, 0xFF :: x :: b)
  | now, done, x :: b => pieces (x :: now) done b

/-- Begin anew behind a restart. -/
def restart : ScanReading Unit :=
  modify fun c => ⟨Bits.ofBytes (c.later.headD []), c.later.drop 1, c.befores.map fun _ => 0, 0⟩

/-- Read the blocks at a place. -/
def readSpots (read : Reader → Block → ScanReading Block) :
    List Spot → Planes → ScanReading Planes
  | [], planes => return planes
  | s :: spots, planes => do
    let planes ← planes.modifyM s.reader.component fun plane =>
      plane.modifyM s.number (read s.reader)
    readSpots read spots planes

/-- Read the blocks of `n` places from place `i` on. -/
def readPlaces (read : Reader → Block → ScanReading Block) (interval : Nat)
    (spots : Nat → List Spot) : (n i : Nat) → Planes → ScanReading Planes
  | 0, _, planes => return planes
  | n + 1, i, planes => do
    if interval ≠ 0 ∧ i ≠ 0 ∧ i % interval = 0 then restart
    let planes ← readSpots read (spots i) planes
    readPlaces read interval spots n (i + 1) planes

/-- What a part of a scan is read with. A pass over the first strengths needs no code for the others,
and a pass over others none for the first. -/
def Preface.scanned (p : Preface) (f : Frame) (s : Scan) (part : Part) :
    Except ImageFault Scanned :=
  match f.components.zipIdx.find? fun c => c.1.id == part.id with
  | none => .error (fault "unknown component")
  | some (c, n) =>
    let steady := p.steady.get? part.steady
    let changing := p.changing.get? part.changing
    let nothing : PrefixCode := ⟨[], #[]⟩
    if f.inPasses then
      if s.first = 0 ∧ s.before = 0 ∧ steady.isNone then .error (fault "missing table")
      else if s.first ≠ 0 ∧ changing.isNone then .error (fault "missing table")
      else .ok ⟨c, n, steady.getD nothing, changing.getD nothing⟩
    else
      match steady, changing with
      | some steady, some changing => .ok ⟨c, n, steady, changing⟩
      | _, _ => .error (fault "missing table")

/-- A band of places in a pass: the first place alone, or some others of a single component. -/
def Scan.isPass (s : Scan) : Bool :=
  if s.first = 0 then s.last == 0
  else s.first ≤ s.last && s.last < 64 && s.parts.length == 1

/-- Read a scan into planes. -/
def Preface.readScan (p : Preface) (f : Frame) (s : Scan) (data : List Bytes) (planes : Planes) :
    Except ImageFault Planes := do
  let parts ← s.parts.mapM (p.scanned f s)
  if parts.isEmpty then .error (fault "empty scan")
  else if f.inPasses ∧ ¬ s.isPass then .error (fault "band")
  else
    let read : Reader → Block → ScanReading Block :=
      if f.inPasses then fun r => r.pass s else Reader.whole
    let start : Cursor :=
      ⟨Bits.ofBytes (data.headD []), data.drop 1, (f.components.map fun _ => (0 : Int)).toArray, 0⟩
    let (planes, _) ←
      readPlaces read p.interval (f.spotsOf parts) (f.placeCount parts) 0 planes start
    return planes

/-- Read scan after scan. A scan of all components at once is the only one. -/
def readScans (f : Frame) :
    (fuel : Nat) → Preface → Scan → Bytes → Planes → Except ImageFault (Preface × Planes)
  | 0, p, _, _, planes => .ok (p, planes)
  | fuel + 1, p, s, b, planes => do
    let (data, b) := pieces [] [] b
    let planes ← p.readScan f s data planes
    if ¬ f.inPasses ∧ s.parts.length = f.components.length then return (p, planes)
    else
      match ← readPreface (b.length + 1) p b with
      | (p, none) => return (p, planes)
      | (p, some (s, b)) => readScans f fuel p s b planes

end Cutout.Jpeg
