import Cutout.Http.Disposition
import Cutout.Http.Request
import Cutout.Text.Quoted

/-!
# Uploads in parts

A body in parts is divided by lines that begin with two hyphens and the boundary. A part has headers,
an empty line and content; the content ends with the line break in front of the next boundary. Two
hyphens behind a boundary end the body, and nothing after them is looked at.

The upload is the first part named `file` that has a file name. Parts in front of it are passed
over, and have to be complete.

A body is read while it arrives. The reader takes in everything that is there before it looks for the
upload, and it stops as soon as no other bytes could change what it has found (`settled?`). What would
arrive later is not waited for.
-/

namespace Cutout.Http.Multipart

/-- Why a body cannot be read. -/
inductive Fault where
  /-- A boundary or the headers of a part are missing. -/
  | unfinished
  /-- A boundary is followed neither by the end of the line nor by two hyphens. -/
  | boundary
  /-- The headers of a part break the rules. -/
  | headers
  /-- The content of a part does not end. -/
  | content (name : Option String)
  deriving DecidableEq, Repr

/-- The text for a fault. -/
def Fault.message : Fault → String
  | unfinished | boundary => "incomplete multipart stream"
  | headers => "failed to read headers"
  | content name =>
    "field " ++ Text.quoted (name.getD "<unknown>") ++ " received with incomplete data"

/-- No bytes behind those that show the fault can mend it. -/
def Fault.isFinal : Fault → Bool
  | unfinished | content _ => false
  | boundary | headers => true

/-- The end of a line. -/
def lineEnd : Bytes := [13, 10]

/-- What a boundary looks like in a body. -/
def delimiter (boundary : Bytes) : Bytes :=
  45 :: 45 :: boundary

/-! ## Headers -/

/-- A space or a tab. -/
def isPadding (x : UInt8) : Bool :=
  x == 32 || x == 9

/-- The byte can stand in the value of a header. -/
def isValue (x : UInt8) : Bool :=
  x == 9 || (32 ≤ x && x != 127)

/-- The byte can stand in the name of a header. -/
def isName (x : UInt8) : Bool :=
  x < 128 && isToken (Char.ofNat x.toNat)

/-- A value without the padding at its end. -/
def trimEnd (b : Bytes) : Bytes :=
  (b.reverse.dropWhile isPadding).reverse

/-- What follows the end of a line, which can be a line feed alone. -/
def afterLine : Bytes → Option Bytes
  | 13 :: 10 :: b => some b
  | 10 :: b => some b
  | _ => none

/-- Read a header: a name, a colon, and a value up to the end of the line. -/
def header (b : Bytes) : Option (Header × Bytes) :=
  let name := b.takeWhile isName
  match name.isEmpty, b.dropWhile isName with
  | false, 58 :: r =>
    let r := r.dropWhile isPadding
    match afterLine (r.dropWhile isValue) with
    | none => none
    | some rest =>
      some (⟨String.ofList (name.map fun x => Char.ofNat x.toNat),
        trimEnd (r.takeWhile isValue)⟩, rest)
  | _, _ => none

/-- The greatest number of headers. -/
def mostHeaders : Nat := 32

/-- Read headers up to an empty line; `room` more are allowed. -/
def headersFrom : (room : Nat) → Bytes → Option (List Header)
  | room, b =>
    match afterLine b with
    | some _ => some []
    | none =>
      match room with
      | 0 => none
      | room + 1 =>
        match header b with
        | none => none
        | some (h, rest) => (headersFrom room rest).map (h :: ·)

/-- The value of the last header with a name, which is given in lowercase. -/
def last? (headers : List Header) (name : String) : Option Bytes :=
  first? headers.reverse name

/-! ## Parts -/

/-- The names of a part. -/
structure Names where
  field : Option String
  file : Option String
  deriving DecidableEq, Repr

/-- The names that the headers of a part give. -/
def namesOf (headers : List Header) : Names :=
  let d := last? headers "content-disposition"
  ⟨d.bind (Disposition.attribute? "name"), d.bind (Disposition.attribute? "filename")⟩

/-- What follows a boundary: nothing behind two hyphens, else the headers of a part behind the end of
the line. -/
def afterBoundary : Bytes → Except Fault (Option Bytes)
  | 45 :: 45 :: _ => .ok none
  | x :: y :: b =>
    match (x :: y :: b).dropWhile isPadding with
    | 13 :: 10 :: rest => .ok (some rest)
    | _ :: _ :: _ => .error .boundary
    | _ => .error .unfinished
  | _ => .error .unfinished

/-- The names of a part, and its content with all that follows. -/
def readNames (b : Bytes) : Except Fault (Names × Bytes) :=
  match Bytes.cut? (lineEnd ++ lineEnd) b with
  | none => .error .unfinished
  | some (block, rest) =>
    -- the empty line was cut off with the block and belongs to it
    match headersFrom mostHeaders (block ++ lineEnd ++ lineEnd) with
    | none => .error .headers
    | some hs => .ok (namesOf hs, rest)

/-- The content of a part, and what follows the boundary behind it. -/
def readContent (boundary : Bytes) (names : Names) (b : Bytes) : Except Fault (Bytes × Bytes) :=
  match Bytes.cut? (lineEnd ++ delimiter boundary) b with
  | none => .error (.content names.field)
  | some r => .ok r

/-- A file that has been uploaded. -/
structure Upload where
  name : String
  content : Bytes
  deriving DecidableEq, Repr

/-- The file name of a part that holds the upload. -/
def Names.upload? (n : Names) : Option String :=
  if n.field = some "file" then n.file else none

/-- Find the upload in what follows a boundary. -/
def findUpload (boundary : Bytes) : (fuel : Nat) → Bytes → Except Fault (Option Upload)
  | 0, _ => .error .unfinished
  | fuel + 1, b => do
    match ← afterBoundary b with
    | none => return none
    | some b =>
      let (names, b) ← readNames b
      let (content, b) ← readContent boundary names b
      match names.upload? with
      | some name => return some ⟨name, content⟩
      | none => findUpload boundary fuel b

/-- Find the upload in a body. What stands in front of the first boundary is not looked at. -/
def upload? (boundary body : Bytes) : Except Fault (Option Upload) :=
  match Bytes.cut? (delimiter boundary) body with
  | none => .error .unfinished
  | some (_, b) => findUpload boundary (body.length + 1) b

/-! ## Bodies while they arrive -/

/-- Why no upload can be read, nor that there is none. -/
inductive Setback where
  | tooLong
  | interrupted
  | fault (f : Fault)
  deriving DecidableEq, Repr

/-- What is found in the bytes that are there, if it is the same whatever follows them. -/
def settled? (boundary taken : Bytes) : Option (Except Fault (Option Upload)) :=
  match upload? boundary taken with
  | .ok u => some (.ok u)
  | .error f => if f.isFinal then some (.error f) else none

/-- Read the upload in a body of which some bytes are taken in and `room` more may follow. -/
def read (boundary : Bytes) :
    (room : Nat) → (taken : Bytes) → List Piece → Except Setback (Option Upload)
  | _, taken, [] => (upload? boundary taken).mapError .fault
  | _, _, .failure :: _ => .error .interrupted
  | room, taken, .data b :: pieces =>
    if room < b.length then .error .tooLong
    else read boundary (room - b.length) (taken ++ b) pieces
  | room, taken, .wait :: pieces =>
    match settled? boundary taken with
    | some found => found.mapError .fault
    | none => read boundary room taken pieces

end Cutout.Http.Multipart
