import Cutout.Yaml.Token

/-!
# Events

A text seen as a sequence of events: documents, sequences and mappings begin and end, and scalars
and references stand between. `Parser.step` finds the next event in a list of tokens; what it
expects there is kept on a stack, so that it never looks further than it must.
-/

namespace Cutout.Yaml

/-- What a node can carry: a name to refer to it, and a tag. -/
structure Properties where
  anchor : Option (List Char)
  tag : Option Bytes
  deriving DecidableEq, Repr

/-- A node without properties. -/
def Properties.none : Properties :=
  ⟨Option.none, Option.none⟩

/-- A scalar with its tag. -/
structure Scalar where
  tag : Option Bytes
  text : List Char
  style : ScalarStyle
  deriving DecidableEq, Repr

/-- What happens next in a text. -/
inductive Event where
  | streamStart | streamEnd | documentStart | documentEnd
  | reference (name : List Char)
  | scalar (anchor : Option (List Char)) (s : Scalar)
  | sequenceStart (p : Properties)
  | sequenceEnd
  | mappingStart (p : Properties)
  | mappingEnd
  deriving DecidableEq, Repr

/-- The scalar of a place where a node is left out. -/
def Event.empty : Event :=
  .scalar none ⟨none, [], .plain⟩

/-- What is expected next. -/
inductive Expectation where
  | streamStart | implicitDocument | document | documentContent | documentEnd
  | blockNode
  | blockSequenceFirst | blockSequenceEntry
  | indentlessEntry
  | blockMappingFirst | blockMappingKey | blockMappingValue
  | flowSequenceFirst | flowSequenceEntry
  | flowPairKey | flowPairValue | flowPairEnd
  | flowMappingFirst | flowMappingKey | flowMappingValue | flowMappingEmptyValue
  | nothing
  deriving DecidableEq, Repr

/-- A text that is being read. -/
structure Parser where
  tokens : List Token
  /-- What is expected next, and after that. -/
  expected : Expectation
  pending : List Expectation
  /-- Where the open collections begin, innermost first. -/
  opened : List Mark
  /-- The abbreviations of tags in force. -/
  handles : List (Bytes × Bytes)

/-- A directive or a marker, with which a document begins explicitly. -/
def TokenKind.opensDocument : TokenKind → Bool
  | .version _ _ | .handle _ _ | .documentStart => true
  | _ => false

/-- Why no event follows. -/
inductive Halt where
  | fault (f : GrammarFault)
  /-- The tokens are used up. -/
  | starved
  deriving DecidableEq, Repr

/-- The next event with the place where it begins, and the text after it. -/
abbrev Parsing := Except Halt (Event × Mark × Parser)

namespace Parser

/-- The beginning of a text. -/
def start (tokens : List Token) : Parser :=
  ⟨tokens, .streamStart, [], [], []⟩

/-- Look at the next token, and at the text after it. -/
def next {α : Type} (p : Parser) (k : Token → Parser → Except Halt α) : Except Halt α :=
  match p.tokens with
  | [] => .error .starved
  | t :: ts => k t { p with tokens := ts }

/-- Broken grammar at a token. -/
def breach {α : Type} (t : Token) (b : Breach) (a : Option (Activity × Mark)) : Except Halt α :=
  .error (.fault ⟨b, t.start, a⟩)

/-- Broken grammar inside the innermost open collection. -/
def breachInside {α : Type} (p : Parser) (t : Token) (b : Breach) (a : Activity) : Except Halt α :=
  breach t b (some (a, p.opened.headD Mark.origin))

/-- Go on with what was pending. -/
def pop (p : Parser) : Parser :=
  match p.pending with
  | e :: rest => { p with expected := e, pending := rest }
  | [] => { p with expected := .nothing }

/-- Keep something for later. -/
def defer (p : Parser) (e : Expectation) : Parser :=
  { p with pending := e :: p.pending }

/-- Expect something else. -/
def expect (p : Parser) (e : Expectation) : Parser :=
  { p with expected := e }

/-- Leave a collection at a token that closes it. -/
def close (p : Parser) (e : Event) (m : Mark) : Parsing :=
  .ok (e, m, { p.pop with opened := p.opened.tail })

/-- A node is left out at this place. -/
def leaveOut (p : Parser) (m : Mark) : Parsing :=
  .ok (.empty, m, p)

/-! ## Nodes -/

/-- An anchor and a tag as they are written, the place where they begin, and where the tag is. -/
structure Written where
  anchor : Option (List Char)
  tag : Option (Bytes × Bytes × Mark)
  start : Mark

/-- The anchor and the tag in front of a node, in either order. -/
def written (p : Parser) : Except Halt (Written × Parser) :=
  p.next fun t q =>
    match t.kind with
    | .anchor a =>
      q.next fun u r =>
        match u.kind with
        | .tag h s => .ok (⟨some a, some (h, s, u.start), t.start⟩, r)
        | _ => .ok (⟨some a, none, t.start⟩, q)
    | .tag h s =>
      q.next fun u r =>
        match u.kind with
        | .anchor a => .ok (⟨some a, some (h, s, t.start), t.start⟩, r)
        | _ => .ok (⟨none, some (h, s, t.start), t.start⟩, q)
    | _ => .ok (⟨none, none, t.start⟩, p)

/-- A tag with its abbreviation written out. -/
def fullTag (p : Parser) (since : Mark) : Option (Bytes × Bytes × Mark) → Except Halt (Option Bytes)
  | none => .ok none
  | some (h, s, m) =>
    if h.isEmpty then .ok (some s)
    else
      match p.handles.find? (·.1 == h) with
      | some (_, lead) => .ok (some (lead ++ s))
      | none => .error (.fault ⟨.undefinedHandle, m, some (.node, since)⟩)

/-- A node. In a block, block collections can begin here, and a sequence can do without
indentation where a mapping leads to it. -/
def node (block indentless : Bool) (p : Parser) : Parsing :=
  p.next fun first rest =>
    match first.kind with
    | .reference a => .ok (.reference a, first.start, rest.pop)
    | _ => do
      let (w, p) ← p.written
      let tag ← p.fullTag w.start w.tag
      let props : Properties := ⟨w.anchor, tag⟩
      p.next fun t q =>
        let openWith (e : Event) (x : Expectation) : Parsing := .ok (e, w.start, p.expect x)
        match t.kind with
        | .scalar text style =>
          let tag := if tag == some exclamation then none else tag
          .ok (.scalar w.anchor ⟨tag, text, style⟩, w.start, q.pop)
        | .flowSequenceStart => openWith (.sequenceStart props) .flowSequenceFirst
        | .flowMappingStart => openWith (.mappingStart props) .flowMappingFirst
        | k =>
          if indentless && k == .blockEntry then
            openWith (.sequenceStart props) .indentlessEntry
          else if block && k == .blockSequenceStart then
            openWith (.sequenceStart props) .blockSequenceFirst
          else if block && k == .blockMappingStart then
            openWith (.mappingStart props) .blockMappingFirst
          else if w.anchor.isSome || tag.isSome then
            .ok (.scalar w.anchor ⟨tag, [], .plain⟩, w.start, p.pop)
          else
            breach t .missingNode (some (if block then .blockNode else .flowNode, w.start))

/-! ## Documents -/

/-- The abbreviations that every document has. -/
def standardHandles : List (Bytes × Bytes) :=
  [(exclamation, exclamation),
   (Bytes.ofAscii "!!", Bytes.ofAscii "tag:yaml.org,2002:")]

/-- Read the directives in front of a document; `versioned` says that there was a version. -/
def directives (versioned : Bool) (declared : List (Bytes × Bytes)) :
    List Token → Except Halt (List (Bytes × Bytes) × List Token)
  | [] => .error .starved
  | t :: ts =>
    match t.kind with
    | .version major minor =>
      if versioned then breach t .duplicateVersion none
      else if major ≠ 1 || (minor ≠ 1 && minor ≠ 2) then breach t .wrongVersion none
      else directives true declared ts
    | .handle h lead =>
      if declared.any (·.1 == h) then breach t .duplicateHandle none
      else directives versioned (declared ++ [(h, lead)]) ts
    | _ => .ok (declared, t :: ts)

/-- The marker that begins a document, behind its directives. -/
def documentMarker (declared : List (Bytes × Bytes)) (m : Mark) (p : Parser) : Parsing :=
  p.next fun t rest =>
    if t.kind == .documentStart then
      .ok (.documentStart, m,
        { (rest.defer .documentEnd).expect .documentContent with
          handles := declared ++ standardHandles })
    else breach t .missingDocumentStart none

/-- The beginning of a document. Only the first one can do without its marker. -/
def document (implicit : Bool) (p : Parser) : Parsing :=
  let p :=
    if implicit then p
    else { p with tokens := p.tokens.dropWhile fun t => t.kind == .documentEnd }
  p.next fun t rest =>
    match t.kind with
    | .streamEnd => .ok (.streamEnd, t.start, rest.expect .nothing)
    | k =>
      if implicit && !k.opensDocument then
        .ok (.documentStart, t.start,
          { (p.defer .documentEnd).expect .blockNode with handles := standardHandles })
      else do
        let (declared, ts) ← directives false [] p.tokens
        { p with tokens := ts }.documentMarker declared t.start

/-- The content of a document after its marker. -/
def documentContent (p : Parser) : Parsing :=
  p.next fun t _ =>
    match t.kind with
    | .version _ _ | .handle _ _ | .documentStart | .documentEnd | .streamEnd =>
      p.pop.leaveOut t.start
    | _ => p.node true false

/-- The end of a document. -/
def documentEnd (p : Parser) : Parsing :=
  p.next fun t rest =>
    let q := if t.kind == .documentEnd then rest else p
    .ok (.documentEnd, t.start, { q.expect .document with handles := [] })

/-! ## Block collections -/

/-- Remember where a collection begins. -/
def enter (p : Parser) (k : Parser → Parsing) : Parsing :=
  p.next fun t rest => k { rest with opened := t.start :: rest.opened }

/-- A node that may be left out before one of some tokens; then `after` is expected. -/
def nodeUnless (stops : List TokenKind) (block indentless : Bool) (after : Expectation) (m : Mark)
    (p : Parser) : Parsing :=
  p.next fun t _ =>
    if stops.contains t.kind then (p.expect after).leaveOut m
    else (p.defer after).node block indentless

/-- An entry of a block sequence, or its end. -/
def blockSequenceEntry (p : Parser) : Parsing :=
  p.next fun t rest =>
    match t.kind with
    | .blockEntry =>
      rest.nodeUnless [.blockEntry, .blockEnd] true false .blockSequenceEntry t.stop
    | .blockEnd => rest.close .sequenceEnd t.start
    | _ => p.breachInside t .missingDash .blockCollection

/-- An entry of a sequence without indentation, or its end. -/
def indentlessEntry (p : Parser) : Parsing :=
  p.next fun t rest =>
    match t.kind with
    | .blockEntry =>
      rest.nodeUnless [.blockEntry, .key, .value, .blockEnd] true false .indentlessEntry t.stop
    | _ => .ok (.sequenceEnd, t.start, p.pop)

/-- The tokens before which a node of a block mapping can be left out. -/
def mappingStops : List TokenKind :=
  [.key, .value, .blockEnd]

/-- A key of a block mapping, or its end. -/
def blockMappingKey (p : Parser) : Parsing :=
  p.next fun t rest =>
    match t.kind with
    | .key => rest.nodeUnless mappingStops true true .blockMappingValue t.stop
    | .blockEnd => rest.close .mappingEnd t.start
    | _ => p.breachInside t .missingKey .blockMapping

/-- The value of a key of a block mapping. -/
def blockMappingValue (p : Parser) : Parsing :=
  p.next fun t rest =>
    match t.kind with
    | .value => rest.nodeUnless mappingStops true true .blockMappingKey t.stop
    | _ => (p.expect .blockMappingKey).leaveOut t.start

/-! ## Flow collections -/

/-- An entry of a flow sequence behind its comma, or the end of the sequence. -/
def flowSequenceItem (p : Parser) : Parsing :=
  p.next fun t rest =>
    match t.kind with
    | .flowSequenceEnd => rest.close .sequenceEnd t.start
    | .key => .ok (.mappingStart Properties.none, t.start, rest.expect .flowPairKey)
    | _ => (p.defer .flowSequenceEntry).node false false

/-- A later entry of a flow sequence, or the end of the sequence. -/
def flowSequenceEntry (p : Parser) : Parsing :=
  p.next fun t rest =>
    match t.kind with
    | .flowSequenceEnd => rest.close .sequenceEnd t.start
    | .flowEntry => rest.flowSequenceItem
    | _ => p.breachInside t .missingSequenceEnd .flowSequence

/-- The key of a single pair in a flow sequence. Where it is left out, the token that shows this is
passed over. -/
def flowPairKey (p : Parser) : Parsing :=
  p.next fun t rest =>
    match t.kind with
    | .value | .flowEntry | .flowSequenceEnd => (rest.expect .flowPairValue).leaveOut t.stop
    | _ => (p.defer .flowPairValue).node false false

/-- The value of a single pair in a flow sequence. -/
def flowPairValue (p : Parser) : Parsing :=
  p.next fun t rest =>
    match t.kind with
    | .value =>
      rest.next fun u _ =>
        rest.nodeUnless [.flowEntry, .flowSequenceEnd] false false .flowPairEnd u.start
    | _ => (p.expect .flowPairEnd).leaveOut t.start

/-- The end of a single pair in a flow sequence. -/
def flowPairEnd (p : Parser) : Parsing :=
  p.next fun t _ => .ok (.mappingEnd, t.start, p.expect .flowSequenceEntry)

/-- A key of a flow mapping behind its comma, or the end of the mapping. -/
def flowMappingItem (p : Parser) : Parsing :=
  p.next fun t rest =>
    match t.kind with
    | .flowMappingEnd => rest.close .mappingEnd t.start
    | .key =>
      rest.next fun u _ =>
        rest.nodeUnless [.value, .flowEntry, .flowMappingEnd] false false .flowMappingValue u.start
    | _ => (p.defer .flowMappingEmptyValue).node false false

/-- A later key of a flow mapping, or the end of the mapping. -/
def flowMappingKey (p : Parser) : Parsing :=
  p.next fun t rest =>
    match t.kind with
    | .flowMappingEnd => rest.close .mappingEnd t.start
    | .flowEntry => rest.flowMappingItem
    | _ => p.breachInside t .missingMappingEnd .flowMapping

/-- The value of a key of a flow mapping. -/
def flowMappingValue (p : Parser) : Parsing :=
  p.next fun t rest =>
    match t.kind with
    | .value =>
      rest.next fun u _ =>
        rest.nodeUnless [.flowEntry, .flowMappingEnd] false false .flowMappingKey u.start
    | _ => (p.expect .flowMappingKey).leaveOut t.start

/-- The next event. -/
def step (p : Parser) : Parsing :=
  match p.expected with
  | .streamStart =>
    p.next fun t rest =>
      if t.kind == .streamStart then .ok (.streamStart, t.start, rest.expect .implicitDocument)
      else breach t .missingStreamStart none
  | .implicitDocument => p.document true
  | .document => p.document false
  | .documentContent => p.documentContent
  | .documentEnd => p.documentEnd
  | .blockNode => p.node true false
  | .blockSequenceFirst => p.enter blockSequenceEntry
  | .blockSequenceEntry => p.blockSequenceEntry
  | .indentlessEntry => p.indentlessEntry
  | .blockMappingFirst => p.enter blockMappingKey
  | .blockMappingKey => p.blockMappingKey
  | .blockMappingValue => p.blockMappingValue
  | .flowSequenceFirst => p.enter flowSequenceItem
  | .flowSequenceEntry => p.flowSequenceEntry
  | .flowPairKey => p.flowPairKey
  | .flowPairValue => p.flowPairValue
  | .flowPairEnd => p.flowPairEnd
  | .flowMappingFirst => p.enter flowMappingItem
  | .flowMappingKey => p.flowMappingKey
  | .flowMappingValue => p.flowMappingValue
  | .flowMappingEmptyValue =>
    p.next fun t _ => (p.expect .flowMappingKey).leaveOut t.start
  | .nothing => .error .starved

end Parser

end Cutout.Yaml
