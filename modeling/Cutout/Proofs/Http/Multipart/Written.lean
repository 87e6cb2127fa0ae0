import Cutout.Proofs.Http.Multipart.Part

/-!
# Bodies as a client writes them

A client writes its parts one behind the other, each behind a line with the boundary, and closes the
body with two hyphens behind the last boundary. Such a body is read as it was meant
(`holds_written`): what is found is the first part that is an upload, with its own name and content.

The content of a part can be anything but a line break with the boundary behind it. A line break that
begins a boundary and does not finish it, a boundary without a line break, and a content that ends in
the middle of either are content: the search for the end of a part meets the mark nowhere earlier,
because a line break comes only once in it (`Bytes.cut?_append_mark`).
-/

namespace Cutout.Http.Multipart

/-- A body that a client writes. -/
def written (boundary : Bytes) (parts : List Part) : Bytes :=
  parts.flatMap (Part.written boundary) ++ delimiter boundary ++ [45, 45] ++ lineEnd

variable {boundary : Bytes} {parts : List Part}

theorem written_cons (p : Part) (parts : List Part) :
    written boundary (p :: parts) = p.written boundary ++ written boundary parts := by
  unfold written
  simp only [List.flatMap_cons, List.append_assoc]

-- A file and a field without one, as they stand in a body.
example : written (Bytes.ofAscii "x") [⟨"file", some "cat.png", [7]⟩, ⟨"note", none, []⟩] =
    Bytes.ofAscii ("--x\r\nContent-Disposition: form-data; name=\"file\"; filename=\"cat.png\"\r\n" ++
      "Content-Type: application/octet-stream\r\n\r\n") ++ [7] ++
    Bytes.ofAscii "\r\n--x\r\nContent-Disposition: form-data; name=\"note\"\r\n\r\n\r\n--x--\r\n" := by
  decide +kernel

/-- A part, in front of the boundary that follows it. -/
theorem Part.isPart {p : Part} (hboundary : 13 ∉ boundary) (h : p.IsPlain boundary) (rest : Bytes) :
    IsPart boundary
      (lineEnd ++ (p.head ++ lineEnd ++ lineEnd ++
        (p.content ++ (lineEnd ++ delimiter boundary) ++ rest)))
      (namesOf p.headers) p.content rest := by
  have hmark : 13 ∉ 10 :: delimiter boundary := by
    unfold delimiter
    simp only [List.mem_cons, not_or]
    exact ⟨by decide, by decide, by decide, hboundary⟩
  have hcontent := Bytes.cut?_append_mark hmark h.content rest
  exact ⟨_, _, ⟨[], by simp, rfl⟩, p.announces h _, .of_cut? hcontent⟩

/-- What follows the boundary in front of a part is this part, if a boundary follows it. -/
theorem Part.exists_isPart {p : Part} (hboundary : 13 ∉ boundary) (h : p.IsPlain boundary)
    (rest : Bytes) :
    ∃ b, p.written boundary ++ (delimiter boundary ++ rest) = delimiter boundary ++ b ∧
      IsPart boundary b (namesOf p.headers) p.content rest := by
  refine ⟨_, ?_, p.isPart hboundary h rest⟩
  unfold Part.written
  simp only [List.append_assoc]

/-- A part is read as the upload that it is. -/
theorem Part.upload?_eq {p : Part} (h : p.IsPlain boundary) :
    p.upload? = (namesOf p.headers).upload?.map fun f => ⟨f, p.content⟩ := by
  rw [upload?_namesOf h]
  unfold Part.upload?
  split <;> rfl

/-- Behind its first boundary a body holds the first upload among its parts. -/
theorem finds_written (hboundary : 13 ∉ boundary) (hparts : ∀ p ∈ parts, p.IsPlain boundary) :
    ∃ rest, written boundary parts = delimiter boundary ++ rest ∧
      Finds boundary rest (parts.findSome? Part.upload?) := by
  induction parts with
  | nil =>
    refine ⟨[45, 45] ++ lineEnd, ?_, .nothing ⟨lineEnd, rfl⟩⟩
    unfold written
    simp only [List.flatMap_nil, List.nil_append, List.append_assoc]
  | cons p parts ih =>
    have hp : p.IsPlain boundary := hparts p List.mem_cons_self
    obtain ⟨rest, hrest, hfinds⟩ := ih fun q hq => hparts q (List.mem_cons_of_mem p hq)
    obtain ⟨b, hb, hpart⟩ := p.exists_isPart hboundary hp rest
    refine ⟨b, by rw [written_cons, hrest, hb], ?_⟩
    rw [List.findSome?_cons, p.upload?_eq hp]
    cases hupload : (namesOf p.headers).upload? with
    | some name =>
      rw [Names.upload?_eq_some_iff.1 hupload] at hpart
      exact .file hpart
    | none => exact .later hpart (Names.upload?_eq_none_iff.1 hupload) hfinds

/-- **A body is read as it is written**: the upload is the first part that is one. -/
theorem holds_written (hboundary : 13 ∉ boundary) (hparts : ∀ p ∈ parts, p.IsPlain boundary) :
    Holds boundary (written boundary parts) (parts.findSome? Part.upload?) := by
  obtain ⟨rest, hrest, hfinds⟩ := finds_written hboundary hparts
  refine ⟨[], rest, .of_cut? ?_, hfinds⟩
  rw [hrest, Bytes.cut?_append_self]

/-! ## The first upload among parts -/

theorem Part.upload?_eq_none {p : Part} (h : p.name = "file" → p.fileName = none) :
    p.upload? = none := by
  unfold Part.upload?
  split
  · next hfile => rw [h hfile, Option.map_none]
  · rfl

theorem findSome?_upload?_eq_none (h : ∀ p ∈ parts, p.name = "file" → p.fileName = none) :
    parts.findSome? Part.upload? = none := by
  rw [List.findSome?_eq_none_iff]
  intro p hp
  exact Part.upload?_eq_none (h p hp)

/-- Parts in front of the first upload do not count, and neither do those behind it. -/
theorem findSome?_upload?_eq_some {front rest : List Part} {p : Part} {name : String}
    (hfield : p.name = "file") (hname : p.fileName = some name)
    (hfront : ∀ q ∈ front, q.name = "file" → q.fileName = none) :
    (front ++ p :: rest).findSome? Part.upload? = some ⟨name, p.content⟩ := by
  have hhere : p.upload? = some ⟨name, p.content⟩ := by
    unfold Part.upload?
    rw [if_pos hfield, hname, Option.map_some]
  rw [List.findSome?_append, findSome?_upload?_eq_none hfront, Option.none_or, List.findSome?_cons,
    hhere]

end Cutout.Http.Multipart
