import Cutout.Proofs.Http.Multipart.Reading
import Cutout.Proofs.Http.Multipart.Written

/-!
# Bodies that break off

A body that breaks off holds what the whole one holds, or it is seen to be broken (`Holds.of_append`);
it never holds anything else, because what it held would stand in the whole one.

For a body as a client writes it, the place is known: the upload is complete with the boundary behind
it (`holds_upTo`), and not one byte earlier (`broken_of_short`).
-/

namespace Cutout.Http.Multipart

open Bytes (FirstCut)

variable {boundary b head body content rest : Bytes} {names : Names} {u : Option Upload}

/-! ## Parts that break off -/

theorem Holds.unique {v : Option Upload} (h : Holds boundary body u) (h' : Holds boundary body v) :
    u = v :=
  Except.ok.inj (h.upload?_eq.symm.trans h'.upload?_eq)

/-- **A body that breaks off** holds what the whole one holds, or is broken. -/
theorem Holds.of_append {tail : Bytes} (h : Holds boundary (body ++ tail) u) :
    Holds boundary body u ∨ ∃ f, Broken boundary body f := by
  rcases holds_or_broken boundary body with ⟨v, hv⟩ | hbroken
  · obtain rfl := h.unique (hv.append tail)
    exact .inl hv
  · exact .inr hbroken

theorem Opens.unique {head' : Bytes} (h : Opens b head) (h' : Opens b head') : head = head' :=
  Option.some.inj (Except.ok.inj (h.afterBoundary_eq.symm.trans h'.afterBoundary_eq))

theorem Announces.unique {names' : Names} {body' : Bytes} (h : Announces head names body)
    (h' : Announces head names' body') : names = names' ∧ body = body' :=
  Prod.mk.inj (Except.ok.inj (h.readNames_eq.symm.trans h'.readNames_eq))

theorem IsPart.unique {names' : Names} {content' rest' : Bytes}
    (h : IsPart boundary b names content rest) (h' : IsPart boundary b names' content' rest') :
    names = names' ∧ content = content' ∧ rest = rest' := by
  obtain ⟨head, body, hopens, hnames, hcontent⟩ := h
  obtain ⟨head', body', hopens', hnames', hcontent'⟩ := h'
  obtain rfl := hopens.unique hopens'
  obtain ⟨rfl, rfl⟩ := hnames.unique hnames'
  exact ⟨rfl, hcontent.unique hcontent'⟩

/-- A part that breaks off is whole and lacks only some of what follows it, or it goes wrong. -/
theorem IsPart.of_append {tail : Bytes} (h : IsPart boundary (b ++ tail) names content rest) :
    (∃ rest', IsPart boundary b names content rest' ∧ rest = rest' ++ tail) ∨
      ∃ f, GoesWrong boundary b f := by
  rcases isPart_or_closes_or_goesWrong boundary b with ⟨names', content', rest', hpart⟩ | hcloses | hbad
  · obtain ⟨rfl, rfl, rfl⟩ := h.unique (hpart.append tail)
    exact .inl ⟨rest', hpart, rfl⟩
  · obtain ⟨head, body, hopens, -⟩ := h
    exact absurd (hcloses.append tail) hopens.not_closes
  · exact .inr hbad

/-! ## The place where the upload is complete -/

/-- Some parts as a client writes them, up to the end of the boundary behind the last one. -/
def upTo (boundary : Bytes) (parts : List Part) : Bytes :=
  parts.flatMap (Part.written boundary) ++ delimiter boundary

theorem upTo_cons (p : Part) (parts : List Part) :
    upTo boundary (p :: parts) = p.written boundary ++ upTo boundary parts := by
  unfold upTo
  rw [List.flatMap_cons, List.append_assoc]

/-- A body begins with a boundary. -/
theorem exists_written_eq_delimiter (boundary : Bytes) (parts : List Part) :
    ∃ tail, written boundary parts = delimiter boundary ++ tail := by
  cases parts with
  | nil =>
    refine ⟨[45, 45] ++ lineEnd, ?_⟩
    unfold written
    simp only [List.flatMap_nil, List.nil_append, List.append_assoc]
  | cons p parts =>
    refine ⟨lineEnd ++ p.head ++ lineEnd ++ lineEnd ++ p.content ++ lineEnd ++
      written boundary parts, ?_⟩
    rw [written_cons]
    unfold Part.written
    simp only [List.append_assoc]

/-- A body begins with the first of its parts and the boundary behind them. -/
theorem exists_written_eq_upTo (boundary : Bytes) (front rest : List Part) :
    ∃ tail, written boundary (front ++ rest) = upTo boundary front ++ tail := by
  obtain ⟨tail, htail⟩ := exists_written_eq_delimiter boundary rest
  refine ⟨tail, ?_⟩
  unfold upTo
  rw [List.append_assoc, ← htail]
  unfold written
  simp only [List.flatMap_append, List.append_assoc]

/-- Behind the first boundary, up to the boundary behind the first upload: the upload is found, and
everything that breaks off earlier goes wrong. -/
theorem finds_upTo {front : List Part} {p : Part} {name : String} (hboundary : 13 ∉ boundary)
    (hplain : ∀ q ∈ front ++ [p], q.IsPlain boundary) (hfile : p.upload? = some ⟨name, p.content⟩)
    (hfront : ∀ q ∈ front, q.upload? = none) :
    ∃ b, upTo boundary (front ++ [p]) = delimiter boundary ++ b ∧
      Finds boundary b (some ⟨name, p.content⟩) ∧
      ∀ b' tail, b = b' ++ tail → tail ≠ [] → ∃ f, GoesWrong boundary b' f := by
  induction front with
  | nil =>
    have hp : p.IsPlain boundary := hplain p (by simp)
    obtain ⟨b, hb, hpart⟩ := p.exists_isPart hboundary hp []
    refine ⟨b, ?_, ?_, ?_⟩
    · rw [← hb, List.nil_append, upTo_cons]
      unfold upTo
      simp only [List.flatMap_nil, List.nil_append, List.append_nil]
    · rw [p.upload?_eq hp, Option.map_eq_some_iff] at hfile
      obtain ⟨name', hname, heq⟩ := hfile
      obtain rfl : name' = name := congrArg Upload.name heq
      rw [Names.upload?_eq_some_iff.1 hname] at hpart
      exact .file hpart
    · rintro b' tail rfl htail
      rcases hpart.of_append with ⟨rest', -, hrest⟩ | hbad
      · exact absurd (List.append_eq_nil_iff.1 hrest.symm).2 htail
      · exact hbad
  | cons q front ih =>
    obtain ⟨rest, hrest, hfinds, hshort⟩ := ih (fun x hx => hplain x (List.mem_cons_of_mem q hx))
      (fun x hx => hfront x (List.mem_cons_of_mem q hx))
    have hq : q.IsPlain boundary := hplain q List.mem_cons_self
    obtain ⟨b, hb, hpart⟩ := q.exists_isPart hboundary hq rest
    have hnone : (namesOf q.headers).upload? = none := by
      have hq' := hfront q List.mem_cons_self
      rwa [q.upload?_eq hq, Option.map_eq_none_iff] at hq'
    have hother := Names.upload?_eq_none_iff.1 hnone
    refine ⟨b, ?_, .later hpart hother hfinds, ?_⟩
    · rw [← hb, ← hrest, List.cons_append, upTo_cons]
    · rintro b' tail rfl htail
      rcases hpart.of_append with ⟨rest', hpart', hcut⟩ | hbad
      · obtain ⟨f, hf⟩ := hshort rest' tail hcut htail
        exact ⟨f, .later hpart' hother hf⟩
      · exact hbad

section

variable {front : List Part} {p : Part} {name : String} (hboundary : 13 ∉ boundary)
  (hplain : ∀ q ∈ front ++ [p], q.IsPlain boundary) (hfile : p.upload? = some ⟨name, p.content⟩)
  (hfront : ∀ q ∈ front, q.upload? = none)

include hboundary hplain hfile hfront

/-- **The upload is complete with the boundary behind it**, whatever follows. -/
theorem holds_upTo (tail : Bytes) :
    Holds boundary (upTo boundary (front ++ [p]) ++ tail) (some ⟨name, p.content⟩) := by
  obtain ⟨b, hb, hfinds, -⟩ := finds_upTo hboundary hplain hfile hfront
  have hcut : FirstCut (delimiter boundary) (upTo boundary (front ++ [p])) [] b := by
    rw [hb]
    exact .of_cut? (Bytes.cut?_append_self _ _)
  exact Holds.append ⟨[], b, hcut, hfinds⟩ tail

/-- **The upload is not complete earlier**: a body that breaks off before the end of the boundary
behind it is broken. -/
theorem broken_of_short {body tail : Bytes} (hbody : upTo boundary (front ++ [p]) = body ++ tail)
    (htail : tail ≠ []) : ∃ f, Broken boundary body f := by
  obtain ⟨b, hb, -, hshort⟩ := finds_upTo hboundary hplain hfile hfront
  have hcut : FirstCut (delimiter boundary) (body ++ tail) [] b := by
    rw [← hbody, hb]
    exact .of_cut? (Bytes.cut?_append_self _ _)
  rcases hcut.of_append with hnone | ⟨b', hcut', hb'⟩
  · exact ⟨.unfinished, .inl ⟨hnone, rfl⟩⟩
  · obtain ⟨f, hf⟩ := hshort b' tail hb' htail
    exact ⟨f, .inr ⟨[], b', hcut', hf⟩⟩

end

end Cutout.Http.Multipart
