import Cutout.Bytes

/-!
# Request targets

A target is a path with a query, or it begins with a scheme and an authority. What follows a number
sign is not part of it.
-/

namespace Cutout.Http

/-- What a request is about. -/
structure Target where
  path : Bytes
  query : Option Bytes
  deriving DecidableEq, Repr

/-- The byte ends a path. -/
def endsPath (x : UInt8) : Bool :=
  x == 63 || x == 35

/-- The byte ends an authority. -/
def endsAuthority (x : UInt8) : Bool :=
  x == 47 || endsPath x

/-- The query at the beginning of what follows a path. -/
def queryOf : Bytes → Option Bytes
  | 63 :: r => some (r.takeWhile (· != 35))
  | _ => none

/-- The path and the query of a target without authority. -/
def Target.ofPath (b : Bytes) : Target :=
  ⟨b.takeWhile (!endsPath ·), queryOf (b.dropWhile (!endsPath ·))⟩

/-- The same after an authority: an empty path is the root. -/
def Target.ofRest (b : Bytes) : Target :=
  let t := Target.ofPath b
  if t.path.isEmpty then { t with path := [47] } else t

/-- Read a target. An authority alone has no path. -/
def Target.ofBytes (b : Bytes) : Target :=
  match b with
  | 47 :: _ => Target.ofPath b
  | _ =>
    match Bytes.cut? (Bytes.ofAscii "://") b with
    | some (_, rest) => Target.ofRest (rest.dropWhile (!endsAuthority ·))
    | none => if b = [42] then ⟨b, none⟩ else ⟨[], none⟩

end Cutout.Http
