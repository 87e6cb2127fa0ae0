import Cutout.Yaml.Document
import Cutout.Yaml.Schema

/-!
# Records

A record is read from a mapping: it starts from its defaults, every key that it knows changes one
member, and keys that it does not know are passed over with their values. A key that comes twice is
refused. A place where nothing is written is a mapping without entries.
-/

namespace Cutout.Yaml

/-- Why a value is not read. -/
inductive Refusal where
  | fault (f : Fault)
  /-- A misfit that is reported for the mapping around the value. -/
  | unplaced (m : Misfit)
  deriving DecidableEq, Repr

/-- Report an unplaced misfit for a value. -/
def Refusal.place (path : Path) (m : Mark) : Refusal → Fault
  | .fault f => f
  | .unplaced x => .misfit x path m

/-- A reader of one value of a document, which is told the path to the value. -/
abbrev Reader (α : Type) := Document → Path → Items → Except Refusal (α × Items)

/-- The misfit of an item where something else was expected. -/
def Item.misfit (i : Item) (expected : String) : Misfit :=
  match i with
  | .scalar s => s.misfit expected
  | .sequenceStart | .sequenceEnd => .kind .sequence expected
  | .mappingStart | .mappingEnd => .kind .mapping expected
  | .nothing | .reference _ => .kind .nothing expected

/-! ## Single values -/

namespace Reader

/-- Look at the next node, which may be somewhere else: `k` gets its first item, its place and the
items behind that, and the walk goes on behind the reference. -/
def look {α : Type} (k : Item → Mark → Reader α) : Reader α := fun d path items =>
  match items with
  | [] => .error (.fault d.shortage)
  | (.reference n, _) :: rest =>
    match d.target n with
    | [] => .error (.fault d.shortage)
    | (i, m) :: body => (k i m d path body).map fun r => (r.1, rest)
  | (i, m) :: rest => k i m d path rest

/-- Report what is not placed yet for a place. -/
def placed {α : Type} (m : Mark) (r : Reader α) : Reader α := fun d path items =>
  (r d path items).mapError fun x => .fault (x.place path m)

/-- Refuse a value. -/
def refuse {α : Type} (x : Misfit) : Reader α := fun _ _ _ =>
  .error (.unplaced x)

/-- Answer without reading on. -/
def give {α : Type} (a : α) : Reader α := fun _ _ items =>
  .ok (a, items)

/-- A value that a scalar gives, if it suits. -/
def ofScalar {α : Type} (expected : String) (f : Scalar → Option (Except Misfit α)) : Reader α :=
  look fun i m => placed m <|
    match i with
    | .scalar s =>
      match f s with
      | some (.ok a) => give a
      | some (.error x) => refuse x
      | none => refuse (s.misfit expected)
    | i => refuse (i.misfit expected)

/-- The text of a scalar, whatever its style. -/
def text (expected : String) : Reader String :=
  ofScalar expected fun s => some (.ok s.string)

/-- A truth value. -/
def boolean : Reader Bool :=
  ofScalar "a boolean" fun s =>
    if s.speaksFor "bool" then (boolean? s.text).map .ok else none

/-- A number below `2 ^ bits`. -/
def natural (bits : Nat) (expected : String) : Reader Nat :=
  ofScalar expected fun s =>
    if s.speaksFor "int" then
      match unsigned? s.text with
      | some n =>
        if n < Nat.pow 2 bits then some (.ok n)
        else if n < Nat.pow 2 64 then some (.error (.value (.integer n) expected))
        else none
      | none => none
    else none

/-- Whether a scalar stands for the absence of a value: only a plain one does. The tag of nothing
on any other text is a misfit. -/
def isAbsence (s : Scalar) : Except Misfit Bool :=
  if s.style != .plain then .ok false
  else if s.hasTag "null" then
    if isNull s.text then .ok true else .error (.value (.text s.string) "null")
  else .ok (s.tag.isNone && (s.text.isEmpty || isNull s.text))

/-- A value that may be absent. -/
def optional {α : Type} (r : Reader α) : Reader (Option α) := fun d path items =>
  let present : Reader (Option α) := fun d path _ => (r d path items).map fun x => (some x.1, x.2)
  look (fun i _ =>
    match i with
    | .scalar s =>
      match isAbsence s with
      | .ok true => give none
      | .ok false => present
      | .error x => refuse x
    | .nothing => give none
    | _ => present) d path items

end Reader

/-! ## Records -/

/-- A member of a record: its key, and how its value changes the record. -/
structure Member (α : Type) where
  key : String
  read : Reader (α → α)

/-- A member that a reader gives. -/
def Member.of {α β : Type} (key : String) (r : Reader β) (set : β → α → α) : Member α where
  key := key
  read := fun d path items => (r d path items).map fun x => (set x.1, x.2)

/-- How a record is read. -/
structure Record (α : Type) where
  /-- What a message calls it. -/
  name : String
  blank : α
  members : List (Member α)

namespace Record

variable {α : Type}

/-- The name that a key gives to the path of its value. A reference gives none. -/
def keyName : Items → Option String
  | (.scalar s, _) :: _ => some s.string
  | _ => none

/-- Read the entries of a mapping up to its end; `seen` holds the keys that have been read. -/
def entriesFrom (r : Record α) : (fuel : Nat) → (seen : List String) → α → Reader α
  | 0, _, _ => fun d _ _ => .error (.fault d.shortage)
  | fuel + 1, seen, a => fun d path items =>
    match items with
    | (.mappingEnd, _) :: rest => .ok (a, rest)
    | _ => do
      -- an unplaced misfit of a key is reported for the mapping
      let (key, body) ← Reader.text "field identifier" d path items
      match r.members.find? (·.key == key) with
      | none =>
        match d.skip body with
        | .error f => .error (.fault f)
        | .ok rest => entriesFrom r fuel seen a d path rest
      | some m =>
        if seen.contains key then .error (.unplaced (.duplicate key))
        else
          let (f, rest) ← m.read d (path ++ [keyName items]) body
          entriesFrom r fuel (key :: seen) (f a) d path rest

/-- Read the entries of a mapping up to its end. -/
def entries (r : Record α) : Reader α := fun d path items =>
  r.entriesFrom (items.length + 1) [] r.blank d path items

/-- Read a record. -/
def read (r : Record α) : Reader α :=
  Reader.look fun i m => Reader.placed m <|
    match i with
    | .mappingStart => r.entries
    | .nothing => Reader.give r.blank
    | .scalar s => if s.text.isEmpty then Reader.give r.blank else Reader.refuse (i.misfit r.name)
    | _ => Reader.refuse (i.misfit r.name)

/-- Read a text that holds one record. What is wrong behind the record is reported only if the
record itself can be read. -/
def ofText (r : Record α) (text : String) : Except Fault α :=
  let d := Document.ofText text
  match r.read d [] d.items with
  | .error x => .error (x.place [] Mark.origin)
  | .ok (a, _) =>
    match d.fault with
    | some f => .error f
    | none => if d.continued then .error .moreDocuments else .ok a

end Record

end Cutout.Yaml
