import Cutout.Http.MediaType
import Cutout.Http.Query
import Cutout.Http.Request

/-!
# Looking things up in a request

Headers and the pairs of a query are looked up by name, and the first one counts. `FirstWith` says
that without a search; the length that a request declares, the boundary that it announces and the
values in its query are stated with it, and each is what the lookup answers.
-/

namespace Cutout.Http

/-- The first element of a list with a property. -/
structure FirstWith {α : Type} (p : α → Prop) (l : List α) (x : α) : Prop where
  holds : p x
  first : ∃ front rest, l = front ++ x :: rest ∧ ∀ y ∈ front, ¬ p y

theorem find?_eq_some_iff_firstWith {α : Type} {p : α → Bool} {l : List α} {x : α} :
    l.find? p = some x ↔ FirstWith (fun y => p y = true) l x := by
  rw [List.find?_eq_some_iff_append]
  constructor
  · rintro ⟨hx, front, rest, hl, hfront⟩
    exact ⟨hx, front, rest, hl, fun y hy => by simpa using hfront y hy⟩
  · rintro ⟨hx, front, rest, hl, hfront⟩
    exact ⟨hx, front, rest, hl, fun y hy => by simpa using hfront y hy⟩

/-! ## Headers -/

/-- The first header with a name, in any letter case, has this value. -/
def HasHeader (headers : List Header) (name : String) (value : Bytes) : Prop :=
  ∃ h, FirstWith (fun g => Text.asciiLower g.name = name) headers h ∧ h.value = value

theorem first?_eq_some_iff {headers : List Header} {name : String} {value : Bytes} :
    first? headers name = some value ↔ HasHeader headers name value := by
  unfold first? HasHeader
  rw [Option.map_eq_some_iff]
  refine exists_congr fun h => and_congr_left fun _ => ?_
  rw [find?_eq_some_iff_firstWith]
  simp only [beq_iff_eq]

/-- A request declares the length of its body. -/
def Declares (r : Request) (n : Nat) : Prop :=
  ∃ value text, HasHeader r.headers "content-length" value ∧ visible? value = some text ∧
    Text.natural? 64 text = some n

theorem declaredLength?_eq_some_iff {r : Request} {n : Nat} :
    r.declaredLength? = some n ↔ Declares r n := by
  unfold Request.declaredLength? Declares
  simp only [bind, Option.bind_eq_some_iff, first?_eq_some_iff]
  constructor
  · rintro ⟨value, hvalue, text, htext, hn⟩
    exact ⟨value, text, hvalue, htext, hn⟩
  · rintro ⟨value, text, hvalue, htext, hn⟩
    exact ⟨value, hvalue, text, htext, hn⟩

/-- A request is an upload in parts, divided by this boundary. -/
def DividesBy (r : Request) (boundary : List Char) : Prop :=
  ∃ value text m, HasHeader r.headers "content-type" value ∧ visible? value = some text ∧
    MediaType.parse? text = some m ∧ m.kind = "multipart".toList ∧ m.subtype = "form-data".toList ∧
    m.parameter? "boundary" = some boundary

theorem MediaType.boundary?_eq_some_iff {m : MediaType} {boundary : List Char} :
    m.boundary? = some boundary ↔ m.kind = "multipart".toList ∧ m.subtype = "form-data".toList ∧
      m.parameter? "boundary" = some boundary := by
  unfold MediaType.boundary?
  split
  · next h =>
    rw [Bool.and_eq_true, beq_iff_eq, beq_iff_eq] at h
    simp [h.1, h.2]
  · next h =>
    rw [Bool.and_eq_true, beq_iff_eq, beq_iff_eq] at h
    simp only [reduceCtorEq, false_iff]
    rintro ⟨hkind, hsubtype, -⟩
    exact h ⟨hkind, hsubtype⟩

theorem boundary?_eq_some_iff {r : Request} {boundary : List Char} :
    boundary? r.headers = some boundary ↔ DividesBy r boundary := by
  unfold boundary? DividesBy
  simp only [bind, Option.bind_eq_some_iff, first?_eq_some_iff, MediaType.boundary?_eq_some_iff]
  constructor
  · rintro ⟨value, hvalue, text, htext, m, hm, hb⟩
    exact ⟨value, text, m, hvalue, htext, hm, hb⟩
  · rintro ⟨value, text, m, hvalue, htext, hm, hb⟩
    exact ⟨value, hvalue, text, htext, m, hm, hb⟩

theorem DividesBy.unique {r : Request} {boundary boundary' : List Char}
    (h : DividesBy r boundary) (h' : DividesBy r boundary') : boundary = boundary' := by
  rw [← boundary?_eq_some_iff] at h h'
  exact Option.some.inj (h.symm.trans h')

/-! ## Queries -/

/-- The first pair with a key in the query of a request has this value. -/
def HasValue (r : Request) (key value : String) : Prop :=
  ∃ p, FirstWith (fun q => q.1 = key) (Query.pairs (r.target.query.getD [])) p ∧ p.2 = value

theorem Query.first?_eq_some_iff {r : Request} {key value : String} :
    Query.first? (Query.pairs (r.target.query.getD [])) key = some value ↔
      HasValue r key value := by
  unfold Query.first? HasValue
  rw [Option.map_eq_some_iff]
  refine exists_congr fun p => and_congr_left fun _ => ?_
  rw [find?_eq_some_iff_firstWith]
  simp only [beq_iff_eq]

end Cutout.Http
