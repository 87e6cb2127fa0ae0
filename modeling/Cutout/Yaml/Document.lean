import Cutout.Yaml.Event
import Cutout.Yaml.Token.Scan

/-!
# Documents

The first document of a text as a list of items, with the places that its references lead to. A
text may break off in the middle: then the items up to there are kept together with the fault, and
the fault matters only to a reader that gets as far.
-/

namespace Cutout.Yaml

/-- One thing in a document. A text without any content counts as one item that is nothing. -/
inductive Item where
  | nothing
  | reference (target : Nat)
  | scalar (s : Scalar)
  | sequenceStart
  | sequenceEnd
  | mappingStart
  | mappingEnd
  deriving DecidableEq, Repr

/-- Items with the places where they begin. -/
abbrev Items := List (Item × Mark)

/-- The first document of a text. -/
structure Document where
  items : Items
  /-- For each number that a reference can have, how many items precede what it refers to; the
  latest entry counts. -/
  targets : List (Nat × Nat)
  /-- What is wrong behind the items. -/
  fault : Option Fault
  /-- Something follows the document. -/
  continued : Bool

namespace Document

/-! ## Characters -/

/-- A character that a text may hold. -/
def isAllowed (c : Char) : Bool :=
  let n := c.toNat
  n == 0x09 || n == 0x0A || n == 0x0D || (0x20 ≤ n && n ≤ 0x7E) || n == 0x85 ||
    (0xA0 ≤ n && n ≤ 0xD7FF) || (0xE000 ≤ n && n ≤ 0xFFFD && n != 0xFEFF) || 0x10000 ≤ n

/-- How many bytes precede the first character that no text may hold, after `n` bytes. -/
def firstControl (n : Nat) : List Char → Option Nat
  | [] => none
  | c :: cs => if isAllowed c then firstControl (n + c.utf8Size) cs else some n

/-- A text without the mark that some editors put at its beginning, and the size of that mark. -/
def withoutMark : List Char → List Char × Nat
  | '\ufeff' :: cs => (cs, 3)
  | cs => (cs, 0)

/-! ## Collecting items -/

/-- A document as far as it has been collected, latest items first. -/
structure Collection where
  reversed : Items
  count : Nat
  /-- The numbers of the names that have been given, latest first. -/
  names : List (List Char × Nat)
  targets : List (Nat × Nat)

/-- Nothing yet. -/
def Collection.empty : Collection :=
  ⟨[], 0, [], []⟩

/-- Add an item. -/
def Collection.push (c : Collection) (i : Item) (m : Mark) : Collection :=
  { c with reversed := (i, m) :: c.reversed, count := c.count + 1 }

/-- Give a name to the next item. Its number is how many names there are already. -/
def Collection.name (c : Collection) : Option (List Char) → Collection
  | none => c
  | some a =>
    let n := c.names.length
    { c with
      names := (a, n) :: c.names.filter (·.1 != a)
      targets := (n, c.count) :: c.targets }

/-- The document collected so far. -/
def Collection.document (c : Collection) (f : Option Fault) (continued : Bool) : Document :=
  ⟨c.reversed.reverse, c.targets, f, continued⟩

/-- The fault behind the last event. -/
def faultOf (scanned : Option GrammarFault) : Halt → Fault
  | .fault f => .grammar f
  | .starved =>
    match scanned with
    | some f => .grammar f
    | none => .endOfText

/-- The text goes on after its first document. -/
def goesOn (p : Parser) : Bool :=
  match p.step with
  | .ok (.streamEnd, _, _) => false
  | _ => true

/-- Collect the items of the first document. -/
def collect (scanned : Option GrammarFault) : (fuel : Nat) → Collection → Parser → Document
  | 0, c, _ => c.document (some .endOfText) false
  | fuel + 1, c, p =>
    match p.step with
    | .error h => c.document (some (faultOf scanned h)) false
    | .ok (e, m, p) =>
      match e with
      | .streamStart | .documentStart => collect scanned fuel c p
      | .streamEnd => (if c.count = 0 then c.push .nothing m else c).document none false
      | .documentEnd => c.document none (goesOn p)
      | .reference a =>
        match c.names.find? (·.1 == a) with
        | some (_, n) => collect scanned fuel (c.push (.reference n) m) p
        | none => c.document (some (.unknownAnchor m)) false
      | .scalar a s => collect scanned fuel ((c.name a).push (.scalar s) m) p
      | .sequenceStart q => collect scanned fuel ((c.name q.anchor).push .sequenceStart m) p
      | .sequenceEnd => collect scanned fuel (c.push .sequenceEnd m) p
      | .mappingStart q => collect scanned fuel ((c.name q.anchor).push .mappingStart m) p
      | .mappingEnd => collect scanned fuel (c.push .mappingEnd m) p

/-- The first document of a text. -/
def ofText (text : String) : Document :=
  let (cs, n) := withoutMark text.toList
  match firstControl n cs with
  | some n => Collection.empty.document (some (.control n)) false
  | none =>
    let s := scan cs
    collect s.fault (8 * s.tokens.length + 8) Collection.empty (Parser.start s.tokens)

/-! ## Walking -/

/-- The fault of a document that ends too early. -/
def shortage (d : Document) : Fault :=
  d.fault.getD .endOfText

/-- The items from the one that a reference leads to. -/
def target (d : Document) (n : Nat) : Items :=
  match d.targets.find? (·.1 == n) with
  | some (_, i) => d.items.drop i
  | none => []

/-- Pass over a node inside `depth` collections. -/
def skipFrom (d : Document) : (depth : Nat) → Items → Except Fault Items
  | _, [] => .error d.shortage
  | depth, (i, _) :: rest =>
    match i with
    | .sequenceStart | .mappingStart => skipFrom d (depth + 1) rest
    | .sequenceEnd | .mappingEnd =>
      -- an end without a beginning counts as a node
      if depth ≤ 1 then .ok rest else skipFrom d (depth - 1) rest
    | .scalar _ | .reference _ | .nothing =>
      if depth = 0 then .ok rest else skipFrom d depth rest

/-- Pass over a node. -/
def skip (d : Document) (items : Items) : Except Fault Items :=
  d.skipFrom 0 items

end Document

end Cutout.Yaml
