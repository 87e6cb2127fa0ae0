import Cutout.Yaml.Token

/-!
# Directives, tags and names

Lines that begin with a percent sign give the version or abbreviate tags; tags, anchors and
references stand before or instead of a node.
-/

namespace Cutout.Yaml.Cursor

/-- A run of word characters. -/
def word (c : Cursor) : List Char × Cursor :=
  c.span isWordChar

/-! ## Tags -/

/-- The characters that a tag can hold besides word characters and escapes. -/
def isUriMark (x : Char) : Bool :=
  ";/?:@&=+$.!~*'()".toList.contains x

/-- The characters that a tag can hold besides if it stands where no flow indicator is meant. -/
def isFlowMark (x : Char) : Bool :=
  x == ',' || x == '[' || x == ']'

/-- The byte that a percent sign and two hexadecimal digits stand for. -/
def octet? (c : Cursor) : Option Nat :=
  match c.rest with
  | '%' :: a :: b :: _ =>
    match Text.digit? 16 a, Text.digit? 16 b with
    | some h, some l => some (16 * h + l)
    | _, _ => none
  | _ => none

/-- How many bytes a character with this first byte has. -/
def octetWidth (n : Nat) : Nat :=
  if n < 0x80 then 1
  else if n / 32 = 6 then 2
  else if n / 16 = 14 then 3
  else if n / 8 = 30 then 4
  else 0

/-- The bytes of an escaped character after its first one: `n` of them. -/
def trailingOctets (a : Activity) (since : Mark) : Nat → Cursor → Reading (Bytes × Cursor)
  | 0, c => .ok ([], c)
  | n + 1, c =>
    match c.octet? with
    | none => c.breach .missingUriOctet a since
    | some o =>
      if o / 64 ≠ 2 then c.breach .badTrailingOctet a since
      else do
        let (r, c) ← trailingOctets a since n (c.skip 3)
        return (UInt8.ofNat o :: r, c)

/-- The bytes of one escaped character. -/
def escapedOctets (a : Activity) (since : Mark) (c : Cursor) : Reading (Bytes × Cursor) :=
  match c.octet? with
  | none => c.breach .missingUriOctet a since
  | some o =>
    match octetWidth o with
    | 0 => c.breach .badLeadingOctet a since
    | n + 1 => do
      let (r, c) ← trailingOctets a since n (c.skip 3)
      return (UInt8.ofNat o :: r, c)

/-- The bytes of a tag as far as it goes; `verbatim` admits flow indicators. -/
def uriFrom (verbatim : Bool) (a : Activity) (since : Mark) :
    (fuel : Nat) → Cursor → Reading (Bytes × Cursor)
  | 0, c => .ok ([], c)
  | fuel + 1, c =>
    match c.peek with
    | none => .ok ([], c)
    | some '%' => do
      let (o, c) ← escapedOctets a since c
      let (r, c) ← uriFrom verbatim a since fuel c
      return (o ++ r, c)
    | some x =>
      if isWordChar x || isUriMark x || (verbatim && isFlowMark x) then do
        let (r, c) ← uriFrom verbatim a since fuel (c.skip 1)
        return (UInt8.ofNat x.toNat :: r, c)
      else .ok ([], c)

/-- A tag after what has been read of it: `lead` without its first character belongs to it. -/
def uri (verbatim : Bool) (a : Activity) (since : Mark) (lead : Bytes) (c : Cursor) :
    Reading (Bytes × Cursor) := do
  let (r, d) ← uriFrom verbatim a since c.rest.length c
  if lead.isEmpty && r.isEmpty then d.breach .missingTagUri a since
  else return (lead.drop 1 ++ r, d)

/-- An exclamation mark, word characters and perhaps another exclamation mark. -/
def tagHandle (inDirective : Bool) (since : Mark) (c : Cursor) : Reading (Bytes × Cursor) :=
  if !c.sees 0 '!' then
    c.breach .missingExclamation (if inDirective then .tagDirective else .tag) since
  else
    let (w, d) := (c.skip 1).word
    if d.sees 0 '!' then .ok (Bytes.ofAscii (String.ofList ('!' :: w ++ ['!'])), d.skip 1)
    else if inDirective && !w.isEmpty then
      d.breach .missingExclamation .tagDirectiveHandle since
    else .ok (Bytes.ofAscii (String.ofList ('!' :: w)), d)

/-- A handle that ends with an exclamation mark of its own. -/
def isClosedHandle (h : Bytes) : Bool :=
  2 ≤ h.length && h.getLast? == some 0x21

/-- The handle and the rest of a tag that begins here. -/
def tagParts (c : Cursor) : Reading (Bytes × Bytes × Cursor) :=
  let since := c.mark
  if c.sees 1 '<' then do
    let (r, d) ← (c.skip 2).uri true .tagValue since []
    if !d.sees 0 '>' then d.breach .missingTagEnd .tag since
    else return ([], r, d.skip 1)
  else do
    let (h, d) ← c.tagHandle false since
    if isClosedHandle h then
      let (r, d) ← d.uri false .tagValue since []
      return (h, r, d)
    else
      let (r, d) ← d.uri false .tagValue since h
      return if r.isEmpty then ([], exclamation, d) else (exclamation, r, d)

/-- A tag, and the gap behind it. -/
def tag (inFlow : Bool) (c : Cursor) : Reading (Token × Cursor) := do
  let (h, r, d) ← c.tagParts
  if (inFlow && d.sees 0 ',') || d.gapAhead 0 then return (⟨.tag h r, c.mark, d.mark⟩, d)
  else d.breach .missingSpaceOrBreak .tag c.mark

/-! ## Anchors and references -/

/-- What can stand directly behind the name of an anchor. -/
def endsName (c : Cursor) : Bool :=
  c.gapAhead 0 || c.peek.any fun x => "?:,]\x7d%@`".toList.contains x

/-- The name of an anchor or a reference. -/
def name (a : Activity) (c : Cursor) : Reading (List Char × Cursor) :=
  let (w, d) := (c.skip 1).word
  if w.isEmpty || !d.endsName then d.breach .missingName a c.mark else .ok (w, d)

/-- An anchor. -/
def anchor (c : Cursor) : Reading (Token × Cursor) := do
  let (w, d) ← c.name .anchor
  return (⟨.anchor w, c.mark, d.mark⟩, d)

/-- A reference. -/
def reference (c : Cursor) : Reading (Token × Cursor) := do
  let (w, d) ← c.name .aliasName
  return (⟨.reference w, c.mark, d.mark⟩, d)

/-! ## Directives -/

/-- One of the two numbers of a version: at most nine digits. -/
def versionNumber (since : Mark) (c : Cursor) : Reading (Nat × Cursor) :=
  let (ds, d) := c.span Char.isDigit
  if 9 < ds.length then (c.skip 9).breach .versionTooLong .yamlDirective since
  else if ds.isEmpty then d.breach .missingVersionNumber .yamlDirective since
  else .ok (Text.digitsValue ds, d)

/-- The value of a version directive. -/
def versionValue (since : Mark) (c : Cursor) : Reading (TokenKind × Cursor) := do
  let (major, d) ← (c.skipWhile isSpace).versionNumber since
  if !d.sees 0 '.' then d.breach .missingVersionDot .yamlDirective since
  else
    let (minor, d) ← (d.skip 1).versionNumber since
    return (.version major minor, d)

/-- The value of a tag directive. -/
def handleValue (since : Mark) (c : Cursor) : Reading (TokenKind × Cursor) := do
  let (h, d) ← (c.skipWhile isSpace).tagHandle true since
  if !d.atSpace then d.breach .missingSpace .tagDirectiveLine since
  else
    let (r, d) ← (d.skipWhile isSpace).uri true .tagDirectiveUri since []
    if !d.gapAhead 0 then d.breach .missingSpaceOrBreak .tagDirectiveLine since
    else return (.handle h r, d)

/-- A directive with the rest of its line. -/
def directive (c : Cursor) : Reading (Token × Cursor) := do
  let since := c.mark
  let (w, d) := (c.skip 1).word
  if w.isEmpty then d.breach .missingDirectiveName .directive since
  else if !d.gapAhead 0 then d.breach .directiveNameEnd .directive since
  else
    let (k, d) ←
      if w = "YAML".toList then d.versionValue since
      else if w = "TAG".toList then d.handleValue since
      else d.breach .unknownDirective .directive since
    let e := (d.skipWhile isSpace).skipComment
    if !e.atLineEnd then e.breach .missingCommentOrBreak .directive since
    else return (⟨k, since, d.mark⟩, e.lineBreak.2)

end Cutout.Yaml.Cursor
