import Cutout.Bytes

/-!
# Responses

A response has a status, headers and a body.
-/

namespace Cutout.Http

/-- A response. -/
structure Response where
  status : Nat
  contentType : Option String
  /-- The name under which the body is to be saved. -/
  disposition : Option String
  /-- The methods that would have been possible. -/
  allow : Option String
  body : Bytes
  deriving DecidableEq, Repr

namespace Response

/-- A response without a body. -/
def empty (status : Nat) : Response :=
  ⟨status, none, none, none, []⟩

/-- A response whose body is a JSON text. -/
def json (status : Nat) (text : String) : Response :=
  ⟨status, some "application/json", none, none, Bytes.ofText text⟩

/-- A response whose body is a file. -/
def file (contentType name : String) (body : Bytes) : Response :=
  ⟨200, some contentType, some ("inline; filename=\"" ++ name ++ "\""), none, body⟩

/-- The headers that are set. -/
def headers (r : Response) : List (String × String) :=
  let header (name : String) (value : Option String) : List (String × String) :=
    value.toList.map fun v => (name, v)
  header "allow" r.allow ++ header "content-disposition" r.disposition ++
    header "content-type" r.contentType

end Response

end Cutout.Http
