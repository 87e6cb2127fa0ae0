import Cutout.Http.Request
import Mathlib.Data.List.Basic

/-!
# How a body arrives

A body arrives in pieces, and the reader takes in each piece as long as they are not longer than the
limit together. `Reaches` follows the reader from piece to piece, apart from what it makes of the bytes.
Three things can become of a body (`arrives_or_exceeds_or_fails`): it arrives as a whole, a piece of it
exceeds the limit, or the connection fails while it is within the limit. On the way there can be places
where the reader has to wait.
-/

namespace Cutout.Http

/-- The same request with another body. -/
def Request.withBody (r : Request) (pieces : List Piece) : Request :=
  { r with body := pieces }

/-! ## The bytes in pieces -/

/-- The bytes that a piece brings. -/
def Piece.bytes : Piece → Bytes
  | data b => b
  | wait | failure => []

/-- The bytes in some pieces together. -/
def bytesOf (pieces : List Piece) : Bytes :=
  pieces.flatMap Piece.bytes

theorem bytesOf_cons (p : Piece) (pieces : List Piece) :
    bytesOf (p :: pieces) = p.bytes ++ bytesOf pieces :=
  List.flatMap_cons

/-- Chunks bring their concatenation. -/
@[simp] theorem bytesOf_chunks (chunks : List Bytes) :
    bytesOf (chunks.map .data) = chunks.flatten := by
  induction chunks with
  | nil => rfl
  | cons b chunks ih => rw [List.map_cons, bytesOf_cons, ih, List.flatten_cons, Piece.bytes]

/-! ## The reader on its way -/

/-- The reader can have taken in the bytes `taken`, and what is still to come are the pieces `rest`. -/
inductive Reaches (limit : Nat) (pieces : List Piece) : (taken : Bytes) → (rest : List Piece) → Prop
  | start : Reaches limit pieces [] pieces
  | data {taken b : Bytes} {rest : List Piece} :
      Reaches limit pieces taken (.data b :: rest) → taken.length + b.length ≤ limit →
      Reaches limit pieces (taken ++ b) rest
  | wait {taken : Bytes} {rest : List Piece} :
      Reaches limit pieces taken (.wait :: rest) → Reaches limit pieces taken rest

/-- The pieces are the whole of a body that is not longer than the limit. -/
def Arrives (limit : Nat) (pieces : List Piece) (body : Bytes) : Prop :=
  Reaches limit pieces body []

/-- The reader has to wait when it has taken in these bytes. -/
def Waits (limit : Nat) (pieces : List Piece) (taken : Bytes) : Prop :=
  ∃ rest, Reaches limit pieces taken (.wait :: rest)

/-- A piece exceeds the limit, with those in front of it. -/
def Exceeds (limit : Nat) (pieces : List Piece) : Prop :=
  ∃ taken b rest, Reaches limit pieces taken (.data b :: rest) ∧ limit < taken.length + b.length

/-- The connection fails when what has arrived is within the limit. -/
def Fails (limit : Nat) (pieces : List Piece) : Prop :=
  ∃ taken rest, Reaches limit pieces taken (.failure :: rest)

variable {limit : Nat} {pieces rest : List Piece} {taken body : Bytes}

namespace Reaches

theorem length_le (h : Reaches limit pieces taken rest) : taken.length ≤ limit := by
  induction h with
  | start => exact Nat.zero_le limit
  | data _ hle _ =>
    rw [List.length_append]
    exact hle
  | wait _ ih => exact ih

/-- What is taken in and what is still to come are the whole body. -/
theorem bytesOf_eq (h : Reaches limit pieces taken rest) :
    bytesOf pieces = taken ++ bytesOf rest := by
  induction h with
  | start => rfl
  | data _ _ ih => rw [ih, bytesOf_cons, Piece.bytes, List.append_assoc]
  | wait _ ih => rw [ih, bytesOf_cons, Piece.bytes, List.nil_append]

/-- What is still to come are pieces of the body. -/
theorem suffix (h : Reaches limit pieces taken rest) : rest <:+ pieces := by
  induction h with
  | start => exact List.suffix_refl pieces
  | data _ _ ih | wait _ ih => exact (List.suffix_cons _ _).trans ih

/-- From every place on its way the reader gets to an end. -/
theorem ends (h : Reaches limit pieces taken rest) :
    (∃ body, Arrives limit pieces body) ∨ Exceeds limit pieces ∨ Fails limit pieces := by
  induction rest generalizing taken with
  | nil => exact .inl ⟨taken, h⟩
  | cons p rest ih =>
    cases p with
    | data b =>
      by_cases hle : taken.length + b.length ≤ limit
      · exact ih (h.data hle)
      · exact .inr (.inl ⟨taken, b, rest, h, Nat.lt_of_not_le hle⟩)
    | wait => exact ih h.wait
    | failure => exact .inr (.inr ⟨taken, rest, h⟩)

end Reaches

/-- One of the three becomes of every body. -/
theorem arrives_or_exceeds_or_fails (limit : Nat) (pieces : List Piece) :
    (∃ body, Arrives limit pieces body) ∨ Exceeds limit pieces ∨ Fails limit pieces :=
  Reaches.start.ends

/-- What arrives as a whole is the whole body. -/
theorem Arrives.bytesOf_eq (h : Arrives limit pieces body) : bytesOf pieces = body := by
  rw [Reaches.bytesOf_eq h]
  exact List.append_nil body

theorem Arrives.length_le (h : Arrives limit pieces body) : (bytesOf pieces).length ≤ limit := by
  rw [h.bytesOf_eq]
  exact Reaches.length_le h

/-- A body with a piece that exceeds the limit is longer than the limit. -/
theorem Exceeds.lt_length (h : Exceeds limit pieces) : limit < (bytesOf pieces).length := by
  obtain ⟨taken, b, rest, hreach, hlt⟩ := h
  rw [hreach.bytesOf_eq, bytesOf_cons, Piece.bytes, List.length_append, List.length_append]
  omega

theorem Fails.mem (h : Fails limit pieces) : .failure ∈ pieces := by
  obtain ⟨taken, rest, hreach⟩ := h
  exact hreach.suffix.subset List.mem_cons_self

theorem Waits.mem (h : Waits limit pieces taken) : .wait ∈ pieces := by
  obtain ⟨rest, hreach⟩ := h
  exact hreach.suffix.subset List.mem_cons_self

theorem Waits.length_le (h : Waits limit pieces taken) : taken.length ≤ limit := by
  obtain ⟨rest, hreach⟩ := h
  exact hreach.length_le

/-! ## Bodies on a connection that holds -/

/-- Without a failure, a body within the limit arrives. -/
theorem arrives_of_length_le (h : .failure ∉ pieces) (hle : (bytesOf pieces).length ≤ limit) :
    Arrives limit pieces (bytesOf pieces) := by
  rcases arrives_or_exceeds_or_fails limit pieces with ⟨body, hbody⟩ | hexceeds | hfails
  · rw [hbody.bytesOf_eq]
    exact hbody
  · exact absurd hexceeds.lt_length (Nat.not_lt.2 hle)
  · exact absurd hfails.mem h

theorem failure_notMem_chunks (chunks : List Bytes) : Piece.failure ∉ chunks.map .data := by
  simp

/-- Chunks within the limit arrive. -/
theorem arrives_chunks (chunks : List Bytes) (h : chunks.flatten.length ≤ limit) :
    Arrives limit (chunks.map .data) chunks.flatten := by
  rw [← bytesOf_chunks] at h ⊢
  exact arrives_of_length_le (failure_notMem_chunks chunks) h

/-- A chunk within the limit arrives. -/
theorem arrives_single (h : body.length ≤ limit) : Arrives limit [.data body] body :=
  Reaches.start.data (by simpa using h)

end Cutout.Http
