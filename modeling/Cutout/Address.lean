import Cutout.Text.Number

/-!
# Network addresses

Reading and writing internet addresses. An address of the fourth version is four decimal bytes; one
of the sixth version is eight hexadecimal groups, of which one run of zeros can be left out and the
last two can be written as an address of the fourth version.
-/

namespace Cutout

/-- An internet address. -/
inductive Address where
  /-- Four bytes. -/
  | v4 (a b c d : Nat)
  /-- Eight groups of sixteen bits. -/
  | v6 (groups : List Nat)
  deriving DecidableEq, Repr

/-- An address and a port. -/
structure Endpoint where
  address : Address
  port : Nat
  deriving DecidableEq, Repr

/-- What a text that is no address should have been. -/
inductive AddressFault where
  | address
  | endpoint
  deriving DecidableEq, Repr

/-- The text for a fault. -/
def AddressFault.message : AddressFault → String
  | address => "invalid IP address syntax"
  | endpoint => "invalid socket address syntax"

namespace Address

/-! ## Reading

Each reader takes something from the beginning of a text and answers with what is left.
-/

/-- A number at the beginning of a text: its digits go as far as possible, and there is a most of
them if `digits` says so. -/
def number? (base : Nat) (digits : Option Nat) (below : Nat) (padded : Bool) (cs : List Char) :
    Option (Nat × List Char) :=
  let ds := cs.takeWhile fun c => (Text.digit? base c).isSome
  let n := ds.foldl (fun n d => base * n + (Text.digit? base d).getD 0) 0
  if ds.isEmpty || digits.any (· < ds.length) || below ≤ n ||
      (!padded && ds.head? == some '0' && 1 < ds.length) then none
  else some (n, cs.drop ds.length)

/-- What follows a character. -/
def after? (x : Char) : List Char → Option (List Char)
  | c :: cs => if c = x then some cs else none
  | [] => none

/-- One byte of an address of the fourth version. -/
def byte? (cs : List Char) : Option (Nat × List Char) :=
  number? 10 (some 3) 256 false cs

/-- An address of the fourth version at the beginning of a text. -/
def v4? (cs : List Char) : Option (List Nat × List Char) := do
  let (a, cs) ← byte? cs
  let (b, cs) ← (after? '.' cs).bind byte?
  let (c, cs) ← (after? '.' cs).bind byte?
  let (d, cs) ← (after? '.' cs).bind byte?
  return ([a, b, c, d], cs)

/-- Two groups from four bytes. -/
def groupsOfBytes : List Nat → List Nat
  | [a, b, c, d] => [256 * a + b, 256 * c + d]
  | _ => []

/-- The groups at the beginning of a text, at most `room` of them, whether the last two are written
as an address of the fourth version, and what is left. `begun` says that groups precede. -/
def groups : (room : Nat) → (begun : Bool) → List Char → List Nat × Bool × List Char
  | 0, _, cs => ([], false, cs)
  | room + 1, begun, cs =>
    let body := if begun then after? ':' cs else some cs
    -- four bytes take the place of two groups
    match if room = 0 then none else body.bind v4? with
    | some (b, rest) => (groupsOfBytes b, true, rest)
    | none =>
      match body.bind (number? 16 (some 4) 65536 true) with
      | some (g, rest) =>
        let (gs, dotted, rest) := groups room true rest
        (g :: gs, dotted, rest)
      | none => ([], false, cs)

/-- An address of the sixth version at the beginning of a text. -/
def v6? (cs : List Char) : Option (List Nat × List Char) :=
  let (front, dotted, rest) := groups 8 false cs
  if front.length = 8 then some (front, rest)
  else if dotted then none
  else do
    let rest ← (after? ':' rest).bind (after? ':')
    -- two colons stand for one group at least
    let (back, _, rest) := groups (7 - front.length) false rest
    return (front ++ List.replicate (8 - front.length - back.length) 0 ++ back, rest)

/-- The address of four bytes. -/
def ofBytes (b : List Nat) : Address :=
  match b with
  | [a, b, c, d] => v4 a b c d
  | _ => v4 0 0 0 0

/-- An address at the beginning of a text. -/
def leading? (cs : List Char) : Option (Address × List Char) :=
  match v4? cs with
  | some (b, rest) => some (ofBytes b, rest)
  | none => (v6? cs).map fun r => (v6 r.1, r.2)

/-- The address that a text is. -/
def parse (s : String) : Except AddressFault Address :=
  match leading? s.toList with
  | some (a, []) => .ok a
  | _ => .error .address

/-! ## Writing -/

/-- Bytes with points between them. -/
def dotted (a b c d : Nat) : String :=
  ".".intercalate ([a, b, c, d].map toString)

/-- A group in hexadecimal. -/
def groupText (g : Nat) : String :=
  String.ofList (Nat.toDigits 16 g)

/-- Groups with colons between them. -/
def groupsText (gs : List Nat) : String :=
  ":".intercalate (gs.map groupText)

/-- The number of zeros that a list begins with. -/
def zeroRun (gs : List Nat) : Nat :=
  (gs.takeWhile (· == 0)).length

/-- The first of the longest runs of zeros: where it begins, and how long it is. -/
def longestRun (gs : List Nat) : Nat × Nat :=
  (List.range gs.length).foldl
    (fun best i =>
      let n := zeroRun (gs.drop i)
      if best.2 < n then (i, n) else best)
    (0, 0)

/-- How an address is written. -/
def text : Address → String
  | v4 a b c d => dotted a b c d
  | v6 gs =>
    match gs with
    | [0, 0, 0, 0, 0, 65535, g, h] => "::ffff:" ++ dotted (g / 256) (g % 256) (h / 256) (h % 256)
    | _ =>
      let (i, n) := longestRun gs
      if 1 < n then groupsText (gs.take i) ++ "::" ++ groupsText (gs.drop (i + n))
      else groupsText gs

end Address

namespace Endpoint

/-- How an address and a port are written. -/
def text (e : Endpoint) : String :=
  (match e.address with
  | .v4 _ _ _ _ => e.address.text
  | .v6 _ => "[" ++ e.address.text ++ "]") ++ ":" ++ toString e.port

/-- A number below a limit, in decimal. -/
def number? (below : Nat) (cs : List Char) : Option (Nat × List Char) :=
  Address.number? 10 none below true cs

/-- A zone behind an address of the sixth version, if one is named. -/
def afterZone (cs : List Char) : List Char :=
  match (Address.after? '%' cs).bind (number? (Nat.pow 2 32)) with
  | some (_, rest) => rest
  | none => cs

/-- An address and a port at the beginning of a text. -/
def leading? (cs : List Char) : Option (Endpoint × List Char) :=
  let v4 := do
    let (b, cs) ← Address.v4? cs
    let (p, cs) ← (Address.after? ':' cs).bind (number? 65536)
    return (⟨Address.ofBytes b, p⟩, cs)
  match v4 with
  | some e => some e
  | none => do
    let (g, cs) ← (Address.after? '[' cs).bind Address.v6?
    let cs ← Address.after? ']' (afterZone cs)
    let (p, cs) ← (Address.after? ':' cs).bind (number? 65536)
    return (⟨.v6 g, p⟩, cs)

/-- The address and port that a text is. -/
def parse (s : String) : Except AddressFault Endpoint :=
  match leading? s.toList with
  | some (e, []) => .ok e
  | _ => .error .endpoint

end Endpoint

end Cutout
