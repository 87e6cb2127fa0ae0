import Cutout.Image.Source

/-!
# Device-independent bitmaps

A bitmap begins with a file header and one of several headers that extend each other. Its rows are
stored from the bottom up unless the height is negative, each padded to whole groups of four bytes.
Pixels are entries of a palette, which may be run-length encoded, or numbers whose bits are divided
among the colours.
-/

namespace Cutout.Bmp

/-- The file breaks the rules of the format. -/
def malformed {α : Type} (detail : String) : Except ImageFault α :=
  .error (.decoding .bmp detail)

/-- The file needs what is not there. -/
def unsupported {α : Type} (detail : String) : Except ImageFault α :=
  .error (.unsupported (.feature .bmp detail))

/-- The number of `width` bytes at a place. -/
def number (b : Bytes) (place width : Nat) : Except ImageFault Nat :=
  match Bytes.take? width (b.drop place) with
  | some (n, _) => .ok (Bytes.toNatLE n)
  | none => .error .truncated

/-- A number of 32 bits with a sign. -/
def signed (n : Nat) : Int :=
  if n < 0x80000000 then n else (n : Int) - 0x100000000

/-! ## Headers -/

/-- The bits of a number that make up a sample. -/
structure Field where
  shift : Nat
  length : Nat
  deriving DecidableEq, Repr

/-- The fields of the colours, and of opacity if there is any. -/
structure Fields where
  red : Field
  green : Field
  blue : Field
  alpha : Field
  deriving DecidableEq, Repr

/-- Five bits for each colour. -/
def Fields.fifteen : Fields :=
  ⟨⟨10, 5⟩, ⟨5, 5⟩, ⟨0, 5⟩, ⟨0, 0⟩⟩

/-- One byte for each colour. -/
def Fields.bytes : Fields :=
  ⟨⟨16, 8⟩, ⟨8, 8⟩, ⟨0, 8⟩, ⟨0, 0⟩⟩

/-- How pixels are stored. -/
inductive Layout where
  | palette
  | runs
  | direct (f : Fields)
  deriving DecidableEq, Repr

/-- The headers of a bitmap. -/
structure Header where
  width : Nat
  height : Nat
  topDown : Bool
  /-- The bits of one pixel. -/
  bits : Nat
  layout : Layout
  palette : List (Rgb UInt8)
  /-- Where the pixels begin. -/
  place : Nat

/-- The number of trailing zero bits among the lowest `n`. -/
def trailingZeros : (n mask : Nat) → Nat
  | 0, _ => 0
  | n + 1, mask => if mask % 2 = 1 then 0 else trailingZeros n (mask / 2) + 1

/-- The number of trailing one bits among the lowest `n`. -/
def trailingOnes : (n mask : Nat) → Nat
  | 0, _ => 0
  | n + 1, mask => if mask % 2 = 0 then 0 else trailingOnes n (mask / 2) + 1

/-- The field of a mask of consecutive bits in a number of `bits`; of a longer one than a byte the
highest eight bits count. -/
def Field.ofMask (bits mask : Nat) : Except ImageFault Field :=
  if mask = 0 then .ok ⟨0, 0⟩
  else
    let shift := trailingZeros 32 mask
    let length := trailingOnes 32 (mask >>> shift)
    if mask >>> shift ≠ 1 <<< length - 1 then malformed "mask with gaps"
    else if bits < length + shift then malformed "mask too wide"
    else if 8 < length then .ok ⟨shift + (length - 8), 8⟩
    else .ok ⟨shift, length⟩

/-- The fields of four masks; no colour is left out. -/
def Fields.ofMasks (bits red green blue alpha : Nat) : Except ImageFault Fields := do
  let r ← Field.ofMask bits red
  let g ← Field.ofMask bits green
  let b ← Field.ofMask bits blue
  let a ← Field.ofMask bits alpha
  if r.length = 0 ∨ g.length = 0 ∨ b.length = 0 then malformed "no mask"
  else return ⟨r, g, b, a⟩

/-- The sizes of the headers that are understood, the shortest one apart. -/
def headerSizes : List Nat :=
  [40, 52, 56, 108, 124]

/-- The size of the shortest header, whose numbers have two bytes. -/
def coreSize : Nat := 12

/-- The headers that have a mask for opacity. -/
def alphaSizes : List Nat :=
  [56, 108, 124]

/-- The colours of the palette at a place; those that are left out are black. -/
def readPalette (b : Bytes) (place bits used entry : Nat) : Except ImageFault (List (Rgb UInt8)) :=
  if 1 <<< bits < used then malformed "palette too large"
  else
    let n := min 256 (if used = 0 then 1 <<< bits else used)
    match Bytes.take? (n * entry) (b.drop place) with
    | none => .error .truncated
    | some (data, _) =>
      .ok ((List.range n).map fun i =>
        match (data.drop (i * entry)).take 3 with
        | [blue, green, red] => ⟨red, green, blue⟩
        | _ => ⟨0, 0, 0⟩)

/-- The only number of planes. -/
def checkPlanes (n : Nat) : Except ImageFault Unit :=
  if n = 1 then .ok () else malformed "planes"

/-- A bitmap has columns and rows. -/
def checkSides (w h : Nat) : Except ImageFault Unit :=
  if w = 0 ∨ h = 0 then
    unsupported ("Image dimensions (" ++ toString w ++ "x" ++ toString h ++
      " w/3 channels) are too large")
  else .ok ()

/-- Read the shortest header. -/
def readCore (b : Bytes) (place : Nat) : Except ImageFault Header := do
  let w ← number b 18 2
  let h ← number b 20 2
  checkSides w h
  checkPlanes (← number b 22 2)
  let bits ← number b 24 2
  if [1, 4, 8].contains bits then
    let p ← readPalette b (14 + coreSize) bits 0 3
    return ⟨w, h, false, bits, .palette, p, place⟩
  else if bits = 24 then return ⟨w, h, false, bits, .direct .bytes, [], place⟩
  else malformed "bits of a pixel"

/-- The largest side. -/
def longestSide : Int := 65535

/-- The layout of pixels of some bits, by the number of their compression. Masks follow the first
forty bytes of the header. -/
def readLayout (b : Bytes) (size bits method : Nat) : Except ImageFault Layout :=
  match method with
  | 0 =>
    if [1, 2, 4, 8].contains bits then .ok .palette
    else if bits = 16 then .ok (.direct .fifteen)
    else if bits = 24 ∨ bits = 32 then .ok (.direct .bytes)
    else malformed "bits of a pixel"
  | 1 => if bits = 8 then .ok .runs else malformed "bits of a pixel"
  | 2 => if bits = 4 then .ok .runs else malformed "bits of a pixel"
  | 3 =>
    if bits = 16 ∨ bits = 32 then do
      let red ← number b 54 4
      let green ← number b 58 4
      let blue ← number b 62 4
      let alpha ← if alphaSizes.contains size then number b 66 4 else .ok 0
      return .direct (← Fields.ofMasks bits red green blue alpha)
    else malformed "bits of a pixel"
  | 4 => unsupported "JPEG compression"
  | 5 => unsupported "PNG compression"
  | 11 | 12 | 13 => unsupported "CMYK format"
  | _ => malformed "unknown compression"

/-- Read a header of `size` bytes. -/
def readInfo (b : Bytes) (place size : Nat) : Except ImageFault Header := do
  let w := signed (← number b 18 4)
  let h := signed (← number b 22 4)
  if w < 0 then malformed "negative width"
  else if longestSide < w ∨ longestSide < h then malformed "too large"
  else if h = -0x80000000 then malformed "height"
  else
    let topDown := h < 0
    checkSides w.toNat h.natAbs
    checkPlanes (← number b 26 2)
    let bits ← number b 28 2
    let method ← number b 30 4
    if topDown ∧ method ≠ 0 ∧ method ≠ 3 then malformed "compressed from the top"
    else finish w.toNat h.natAbs topDown bits method
where
  /-- The layout is judged before the rest of the header is read, and masks are read after it. -/
  finish (w h : Nat) (topDown : Bool) (bits method : Nat) : Except ImageFault Header := do
    if method ≠ 3 then
      let _ ← readLayout b size bits method
    else if bits ≠ 16 ∧ bits ≠ 32 then
      let _ ← (malformed "bits of a pixel" : Except ImageFault Unit)
    let used ← number b 46 4
    let _ ← number b 50 4
    let layout ← readLayout b size bits method
    let indexed := layout = .palette ∨ layout = .runs
    let palette ← if indexed then readPalette b (14 + size) bits used 4 else .ok []
    return ⟨w, h, topDown, bits, layout, palette, place⟩

/-- Read the headers. -/
def readHeader (b : Bytes) : Except ImageFault Header := do
  let _ ← number b 6 4
  let place ← number b 10 4
  let size ← number b 14 4
  if size = coreSize then readCore b place
  else if headerSizes.contains size then readInfo b place size
  else if size < coreSize then malformed "short header"
  else unsupported ("Unknown bitmap header type (size=" ++ toString size ++ ")")

/-! ## Pixels -/

/-- The nearest byte to a sample in a field. -/
def Field.read (f : Field) (n : Nat) : UInt8 :=
  let top := 1 <<< f.length - 1
  let v := (n >>> f.shift) % (1 <<< f.length)
  UInt8.ofNat ((2 * v * 255 + top) / (2 * top))

/-- The pixel of a number. -/
def Fields.read (f : Fields) (n : Nat) : Rgba UInt8 :=
  ⟨f.red.read n, f.green.read n, f.blue.read n,
    if f.alpha.length = 0 then 255 else f.alpha.read n⟩

/-- The bytes of a row, with its padding. -/
def Header.rowBytes (h : Header) : Nat :=
  (h.bits * h.width + 31) / 32 * 4

/-- Rows of `size` bytes. -/
def readRows (size : Nat) : (n : Nat) → Bytes → Except ImageFault (List (Array UInt8))
  | 0, _ => .ok []
  | n + 1, b =>
    match Bytes.take? size b with
    | none => .error .truncated
    | some (row, b) => do
      let rest ← readRows size n b
      return row.toArray :: rest

/-- The palette entry of a pixel in a row: pixels are taken from the highest bits of a byte on. -/
def entryAt (bits : Nat) (row : Array UInt8) (x : Nat) : Nat :=
  let bit := x * bits
  (row.getD (bit / 8) 0).toNat >>> (8 - bits - bit % 8) % (1 <<< bits)

/-- The number of a pixel in a row, lowest byte first. -/
def numberAt (bytes : Nat) (row : Array UInt8) (x : Nat) : Nat :=
  Bytes.toNatLE ((List.range bytes).map fun i => row.getD (x * bytes + i) 0)

/-- A colour of the palette. -/
def Header.color (h : Header) (i : Nat) : Rgba UInt8 :=
  match h.palette[i]? with
  | some c => ⟨c.red, c.green, c.blue, 255⟩
  | none => ⟨0, 0, 0, 255⟩

/-- A pixel of a row. -/
def Header.pixelAt (h : Header) (row : Array UInt8) (x : Nat) : Rgba UInt8 :=
  match h.layout with
  | .direct f => f.read (numberAt (h.bits / 8) row x)
  | _ => h.color (entryAt h.bits row x)

/-! ## Runs -/

/-- The entries of `n` pixels in bytes that hold `bits` bits of each. -/
def entries (bits n : Nat) (b : Bytes) : List Nat :=
  (List.range n).map fun i => entryAt bits b.toArray i

/-- A row filled up with the pixel that nothing was said about. -/
def fillRow (w : Nat) (reversed : List (Option Nat)) : List (Option Nat) :=
  (reversed.reverse ++ List.replicate (w - reversed.length) none).take w

/-- Read run-length encoded rows: `reversed` holds the entries of the present row, latest first,
and `x` counts what the runs have asked for. What goes past the end of a row is dropped, and the
next row begins. -/
def runsFrom (w h bits : Nat) :
    (fuel : Nat) → (done : List (List (Option Nat))) → (reversed : List (Option Nat)) → (x : Nat) →
      Bytes → Except ImageFault (List (List (Option Nat)))
  | 0, _, _, _, _ => .error .truncated
  | fuel + 1, done, reversed, x, b =>
    if h ≤ done.length then .ok done.reverse
    else
      let put (es : List Nat) (b : Bytes) : Except ImageFault (List (List (Option Nat))) :=
        let now := (es.map some).reverse ++ reversed
        if w < now.length then
          runsFrom w h bits fuel (fillRow w (now.drop (now.length - w)) :: done) [] 0 b
        else runsFrom w h bits fuel done now (x + es.length) b
      match b with
      -- the end of a row
      | 0 :: 0 :: b => runsFrom w h bits fuel (fillRow w reversed :: done) [] 0 b
      -- the end of the picture
      | 0 :: 1 :: _ =>
        .ok ((done.reverse ++ [fillRow w reversed]) ++
          List.replicate (h - done.length - 1) (List.replicate w none))
      -- a step to another place, with nothing said about what lies between
      | 0 :: 2 :: right :: down :: b =>
        let right := right.toNat
        let down := down.toNat
        if down = 0 then
          if w < reversed.length + right then malformed "runs"
          else
            runsFrom w h bits fuel done (List.replicate right none ++ reversed) (x + right) b
        else if h < done.length + 1 + down ∨ w < x + right then malformed "runs"
        else
          runsFrom w h bits fuel
            (List.replicate (down - 1) (List.replicate w none) ++ fillRow w reversed :: done)
            (List.replicate (x + right) none) (x + right) b
      -- entries as they are, filled up to an even number of bytes
      | 0 :: n :: b =>
        if n = 2 then .error .truncated
        else
          let bytes := (n.toNat * bits + 7) / 8
          match Bytes.take? (bytes + bytes % 2) b with
          | none => .error .truncated
          | some (data, b) => put (entries bits n.toNat data) b
      -- the same byte again and again
      | n :: e :: b => put (entries bits n.toNat (List.replicate n.toNat e)) b
      | _ => .error .truncated

/-! ## Pictures -/

/-- The pixels of a bitmap, as a function of column and row. -/
def Header.pixels (h : Header) (b : Bytes) : Except ImageFault (Nat → Nat → Rgba UInt8) :=
  let place (y : Nat) : Nat := if h.topDown then y else h.height - 1 - y
  let data := b.drop h.place
  match h.layout with
  | .runs => do
    let rows ← runsFrom h.width h.height h.bits (data.length + h.height + 1) [] [] 0 data
    let rows := (rows.map List.toArray).toArray
    return fun x y =>
      match (rows.getD (place y) #[]).getD x none with
      | some i => h.color i
      | none => ⟨0, 0, 0, 255⟩
  | _ => do
    let rows ← readRows h.rowBytes h.height data
    let rows := rows.toArray
    return fun x y => h.pixelAt (rows.getD (place y) #[]) x

/-- The bitmap has opacity. -/
def Header.hasAlpha (h : Header) : Bool :=
  match h.layout with
  | .direct f => 0 < f.alpha.length
  | _ => false

/-- Read the headers of a bitmap. -/
def openBmp (b : Bytes) : Except ImageFault Source := do
  let h ← readHeader b
  return {
    width := h.width
    height := h.height
    pixelType := if h.hasAlpha then .rgba8 else .rgb8
    orientation := .ok none
    picture := fun _ => do
      let at? ← h.pixels b
      let r := Raster.ofFn h.width h.height at?
      return if h.hasAlpha then .rgba8 r else .rgb8 (r.map fun p => ⟨p.red, p.green, p.blue⟩) }

end Cutout.Bmp
