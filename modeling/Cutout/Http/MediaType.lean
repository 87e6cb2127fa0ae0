import Cutout.Http.Header

/-!
# Media types

A media type has a type, a subtype and parameters. Names are compared without regard to letter case;
the value of a parameter is a token or stands between double quotes.
-/

namespace Cutout.Http

/-- A media type. -/
structure MediaType where
  kind : List Char
  /-- The subtype without a suffix behind a plus sign. -/
  subtype : List Char
  parameters : List (List Char × List Char)
  deriving DecidableEq, Repr

namespace MediaType

/-- The character can stand between quotes. -/
def isQuotable (c : Char) : Bool :=
  32 ≤ c.toNat && c.toNat != 127

/-- A value between quotes, whose opening one has been read: the value, and what follows the spaces
behind it. The first character is part of the value even if it is a quote. -/
def quotedValue : List Char → Option (List Char × List Char)
  | [] => none
  | c :: cs =>
    if !isQuotable c then none
    else
      match cs.dropWhile fun d => isQuotable d && d != '"' with
      | '"' :: rest =>
        some (c :: cs.takeWhile (fun d => isQuotable d && d != '"'),
          rest.dropWhile (· == ' '))
      | _ => none

/-- A value that is a token, and what follows it. Only at the end it can be empty. -/
def tokenValue (cs : List Char) : Option (List Char × List Char) :=
  let value := cs.takeWhile isToken
  let rest := cs.dropWhile isToken
  if value.isEmpty && !rest.isEmpty then none else some (value, rest)

/-- The value behind an equals sign, and what follows it. -/
def valueOf : List Char → Option (List Char × List Char)
  | '"' :: cs => quotedValue cs
  | cs => tokenValue cs

/-- The parameters behind a semicolon. -/
def parametersFrom : (fuel : Nat) → List Char → Option (List (List Char × List Char))
  | 0, _ => none
  | _ + 1, [] => some []
  | fuel + 1, cs =>
    let cs := cs.dropWhile (· == ' ')
    let name := cs.takeWhile isToken
    match name.isEmpty, cs.dropWhile isToken with
    -- nothing but spaces behind a semicolon
    | true, [] => some []
    | false, '=' :: r =>
      match valueOf r with
      | none => none
      | some (v, []) => some [(name.map Text.asciiLowerChar, v)]
      | some (v, ';' :: r) =>
        match parametersFrom fuel r with
        | none => none
        | some ps => some ((name.map Text.asciiLowerChar, v) :: ps)
      | some (_, _ :: _) => none
    | _, _ => none

/-- A subtype without the suffix behind its last plus sign, which is not its first character. -/
def withoutSuffix (cs : List Char) : List Char :=
  match (cs.reverse.dropWhile (· != '+')).drop 1 with
  | [] => cs
  | front => front.reverse

/-- Read a media type. -/
def parse? (cs : List Char) : Option MediaType :=
  let kind := cs.takeWhile isToken
  match kind.isEmpty, cs.dropWhile isToken with
  | false, '/' :: r =>
    let subtype := r.takeWhile isToken
    let named (ps : List (List Char × List Char)) : MediaType :=
      ⟨kind.map Text.asciiLowerChar, (withoutSuffix subtype).map Text.asciiLowerChar, ps⟩
    match r.dropWhile isToken with
    | [] => some (named [])
    | ';' :: r =>
      if subtype.isEmpty then none else (parametersFrom (r.length + 1) r).map named
    | _ => none
  | _, _ => none

/-- The value of the first parameter with a name. -/
def parameter? (m : MediaType) (name : String) : Option (List Char) :=
  (m.parameters.find? fun p => p.1 == name.toList).map (·.2)

/-- The boundary of an upload, if the media type is one of uploads. -/
def boundary? (m : MediaType) : Option (List Char) :=
  if m.kind == "multipart".toList && m.subtype == "form-data".toList then m.parameter? "boundary"
  else none

end MediaType

/-- The boundary that the headers announce. -/
def boundary? (headers : List Header) : Option (List Char) := do
  let value ← first? headers "content-type"
  let m ← MediaType.parse? (← visible? value)
  m.boundary?

end Cutout.Http
