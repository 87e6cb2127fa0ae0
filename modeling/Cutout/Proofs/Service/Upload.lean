import Cutout.Proofs.Http.MediaType
import Cutout.Proofs.Http.Multipart.Written
import Cutout.Proofs.Service.Decision

/-!
# Uploads as a client sends them

A client announces its boundary and sends its parts. Whatever the chunks are in which the body
arrives, the service takes the first part named `file` that has a file name, with this name and this
content (`uploadOf_written`).
-/

namespace Cutout

open Http Multipart

/-- A request announces a boundary and brings these parts, in a body of at most `limit` bytes. -/
structure Sends (limit : Nat) (r : Request) (boundary : List Char) (parts : List Part) : Prop where
  token : IsTokenText boundary
  plain : ∀ p ∈ parts, p.IsPlain (Bytes.ofText (String.ofList boundary))
  announced : HasHeader r.headers "content-type" (announcement boundary)
  arrives : Arrives limit r.body (written (Bytes.ofText (String.ofList boundary)) parts)

namespace Sends

variable {limit : Nat} {r : Request} {boundary : List Char} {parts : List Part}

/-- What is sent is carried. -/
theorem carries (h : Sends limit r boundary parts) :
    Carries limit r (parts.findSome? Part.upload?) := by
  have hdivides : DividesBy r boundary := dividesBy_of_announcement h.token h.announced
  exact ⟨boundary, hdivides, _, .inl h.arrives, holds_written h.token.return_notMem h.plain⟩

end Sends

/-! ## A small upload -/

/-- An upload of one file of one byte. -/
def oneFile : Request :=
  ⟨"POST", ⟨Bytes.ofAscii "/remove-bg", none⟩, [⟨"Content-Type", announcement ['x']⟩],
    [.data (written (Bytes.ofText (String.ofList ['x'])) [⟨"file", some "cat.png", [1]⟩])]⟩

theorem sends_oneFile : Sends 1000 oneFile ['x'] [⟨"file", some "cat.png", [1]⟩] := by
  refine ⟨⟨by decide, List.all_eq_true.1 (by decide)⟩, by decide +kernel, first?_eq_some_iff.1 rfl, ?_⟩
  exact arrives_single (by decide +kernel)

theorem uploadOf_oneFile : Order.uploadOf 1000 oneFile = .ok ⟨"cat.png", [1]⟩ :=
  Order.uploadOf_eq_ok_iff.2 ⟨sends_oneFile.carries, by decide⟩

theorem draft_oneFile : Order.draft 1000 oneFile = .ok ⟨⟨"cat.png", [1]⟩, .png⟩ := by
  have hinto : Order.containerOf oneFile = .ok .png := rfl
  unfold Order.draft
  rw [uploadOf_oneFile, hinto]
  rfl

/-! ## What the service takes in -/

namespace Service

/-- **What a client writes is what the service takes in.** The file is the first part named `file` that
has a file name, exactly as it was sent, whatever stands in front of it and behind it; without such a
part the file is missing. -/
theorem uploadOf_written [FurtherReaders] (s : Service) (r : Request) (boundary : List Char)
    (parts : List Part) (h : Sends s.limit r boundary parts) :
    (∀ front p rest name, parts = front ++ p :: rest → p.name = "file" → p.fileName = some name →
        (∀ q ∈ front, q.name = "file" → q.fileName = none) →
        Carries s.limit r (some ⟨name, p.content⟩) ∧
          Order.uploadOf s.limit r =
            if name = "" then .error .emptyFileName else .ok ⟨name, p.content⟩) ∧
      ((∀ p ∈ parts, p.name = "file" → p.fileName = none) →
        Carries s.limit r none ∧ Order.uploadOf s.limit r = .error .missingFile ∧
          (s.remove r).response = problem 400 "No file provided. Use field name 'file'.") := by
  have hcarries := h.carries
  refine ⟨?_, ?_⟩
  · rintro front p rest name rfl hfield hname hfront
    rw [findSome?_upload?_eq_some hfield hname hfront] at hcarries
    exact ⟨hcarries, Order.uploadOf_of_carries_some hcarries⟩
  · intro hnone
    have hfind := findSome?_upload?_eq_none hnone
    rw [hfind] at hcarries
    have hmissing := Order.uploadOf_of_carries_none hcarries
    exact ⟨hcarries, hmissing, remove_of_refused hmissing⟩

/-- The first file is taken, though its content begins like a boundary and ends like one: a field
`file` without a file name, and a file in another field, come before it. -/
theorem uploadOf_near_boundary :
    let parts : List Part := [⟨"file", none, [1]⟩, ⟨"note", some "a.txt", []⟩,
      ⟨"file", some "cat.png", Bytes.ofAscii "--x\r\n-"⟩, ⟨"file", some "dog.png", [2]⟩]
    let r : Request := ⟨"POST", ⟨Bytes.ofAscii "/remove-bg", none⟩,
      [⟨"Content-Type", announcement ['x']⟩],
      [.data (written (Bytes.ofText (String.ofList ['x'])) parts)]⟩
    let s : Service := ⟨.loading "u2net", 1000⟩
    Sends s.limit r ['x'] parts ∧
      Order.uploadOf s.limit r = .ok ⟨"cat.png", Bytes.ofAscii "--x\r\n-"⟩ := by
  intro parts r s
  have hsends : Sends s.limit r ['x'] parts := by
    refine ⟨⟨by decide, List.all_eq_true.1 (by decide)⟩, ?_, first?_eq_some_iff.1 rfl, ?_⟩
    · decide +kernel
    · exact arrives_single (by decide +kernel)
  have hread := (uploadOf_written s r ['x'] parts hsends).1 [⟨"file", none, [1]⟩,
    ⟨"note", some "a.txt", []⟩] ⟨"file", some "cat.png", Bytes.ofAscii "--x\r\n-"⟩
    [⟨"file", some "dog.png", [2]⟩] "cat.png" rfl rfl rfl (by decide)
  exact ⟨hsends, hread.2⟩

end Service

end Cutout
