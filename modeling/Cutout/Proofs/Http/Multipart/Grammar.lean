import Cutout.Http.Multipart
import Cutout.Proofs.Search
import Mathlib.Data.List.TakeWhile

/-!
# The grammar of a body in parts

What a body in parts is, without a reader: a part opens, gives its names in a block of headers, and
has content up to the next boundary. `Holds` says which upload stands in a body, and `Broken` says
where a body goes wrong before its upload is complete. What stands behind the upload is in neither.

`upload?_eq_ok_iff` and `upload?_eq_error_iff` say that the reader finds exactly these; so one of the
two is the case for every body (`holds_or_broken`), and the fuel of the reader is always enough.
-/

namespace Cutout.Http.Multipart

open Bytes (FirstCut cut?_eq_some_iff cut?_eq_none_iff)

/-! ## Parts -/

/-- Two hyphens follow a boundary. It is the last one. -/
def Closes (b : Bytes) : Prop :=
  ∃ rest, b = 45 :: 45 :: rest

/-- Padding and the end of the line follow a boundary, and the part `head` begins. -/
def Opens (b head : Bytes) : Prop :=
  ∃ padding : Bytes, (∀ x ∈ padding, isPadding x = true) ∧ b = padding ++ lineEnd ++ head

/-- Neither the end of the line nor two hyphens follow a boundary, but two other bytes behind its
padding. -/
def Strays (b : Bytes) : Prop :=
  ¬ Closes b ∧ ∃ padding x y rest, (∀ z ∈ padding, isPadding z = true) ∧ isPadding x = false ∧
    [x, y] ≠ lineEnd ∧ b = padding ++ x :: y :: rest

/-- The headers up to the first empty line give some names. -/
def Announces (head : Bytes) (names : Names) (body : Bytes) : Prop :=
  ∃ block headers, FirstCut (lineEnd ++ lineEnd) head block body ∧
    headersFrom mostHeaders (block ++ lineEnd ++ lineEnd) = some headers ∧ namesOf headers = names

/-- A whole part follows a boundary; `rest` follows the boundary behind it. -/
def IsPart (boundary b : Bytes) (names : Names) (content rest : Bytes) : Prop :=
  ∃ head body, Opens b head ∧ Announces head names body ∧
    FirstCut (lineEnd ++ delimiter boundary) body content rest

/-- The upload in what follows a boundary: the first part named `file` that has a file name. -/
inductive Finds (boundary : Bytes) : Bytes → Option Upload → Prop
  | nothing {b : Bytes} : Closes b → Finds boundary b none
  | file {b content rest : Bytes} {name : String} :
      IsPart boundary b ⟨some "file", some name⟩ content rest →
      Finds boundary b (some ⟨name, content⟩)
  | later {b content rest : Bytes} {names : Names} {u : Option Upload} :
      IsPart boundary b names content rest → (∀ name, names ≠ ⟨some "file", some name⟩) →
      Finds boundary rest u → Finds boundary b u

/-- What follows a boundary goes wrong before the upload in it is complete. -/
inductive GoesWrong (boundary : Bytes) : Bytes → Fault → Prop
  | boundary {b : Bytes} : Strays b → GoesWrong boundary b .boundary
  | unfinished {b : Bytes} :
      ¬ Closes b → (∀ head, ¬ Opens b head) → ¬ Strays b → GoesWrong boundary b .unfinished
  | emptyLine {b head : Bytes} :
      Opens b head → ¬ lineEnd ++ lineEnd <:+: head → GoesWrong boundary b .unfinished
  | headers {b head block body : Bytes} :
      Opens b head → FirstCut (lineEnd ++ lineEnd) head block body →
      headersFrom mostHeaders (block ++ lineEnd ++ lineEnd) = none →
      GoesWrong boundary b .headers
  | content {b head body : Bytes} {names : Names} :
      Opens b head → Announces head names body → ¬ lineEnd ++ delimiter boundary <:+: body →
      GoesWrong boundary b (.content names.field)
  | later {b content rest : Bytes} {names : Names} {f : Fault} :
      IsPart boundary b names content rest → (∀ name, names ≠ ⟨some "file", some name⟩) →
      GoesWrong boundary rest f → GoesWrong boundary b f

/-- The upload in a body. What stands in front of the first boundary does not count. -/
def Holds (boundary body : Bytes) (u : Option Upload) : Prop :=
  ∃ preamble b, FirstCut (delimiter boundary) body preamble b ∧ Finds boundary b u

/-- A body goes wrong before its upload is complete. -/
def Broken (boundary body : Bytes) (f : Fault) : Prop :=
  (¬ delimiter boundary <:+: body ∧ f = .unfinished) ∨
    ∃ preamble b, FirstCut (delimiter boundary) body preamble b ∧ GoesWrong boundary b f

/-! ## Each step of the reader -/

theorem Closes.afterBoundary_eq {b : Bytes} (h : Closes b) : afterBoundary b = .ok none := by
  obtain ⟨rest, rfl⟩ := h
  rfl

theorem dropWhile_isPadding_append {padding : Bytes} (h : ∀ x ∈ padding, isPadding x = true)
    {x : UInt8} (hx : isPadding x = false) (rest : Bytes) :
    (padding ++ x :: rest).dropWhile isPadding = x :: rest := by
  have hstop : ¬ isPadding x = true := by simp [hx]
  rw [List.dropWhile_append_of_pos h, List.dropWhile_cons_of_neg hstop]

/-- Behind the padding, what is not the last boundary is decided by two bytes. -/
theorem afterBoundary_padding {padding : Bytes} (h : ∀ x ∈ padding, isPadding x = true) {x : UInt8}
    (hx : isPadding x = false) (y : UInt8) (rest : Bytes)
    (hcloses : ¬ Closes (padding ++ x :: y :: rest)) :
    afterBoundary (padding ++ x :: y :: rest) =
      if [x, y] = lineEnd then .ok (some rest) else .error .boundary := by
  have hdrop := dropWhile_isPadding_append h hx (y :: rest)
  unfold afterBoundary
  split
  · next heq => exact absurd ⟨_, heq⟩ hcloses
  · next heq =>
    rw [← heq, hdrop]
    split
    · next hline =>
      obtain ⟨rfl, hrest⟩ := List.cons.inj hline
      obtain ⟨rfl, rfl⟩ := List.cons.inj hrest
      rfl
    · next hother hline =>
      rw [if_neg]
      intro hend
      obtain ⟨rfl, hrest⟩ := List.cons.inj hline
      obtain ⟨rfl, -⟩ := List.cons.inj hrest
      obtain ⟨hx, hy⟩ := List.cons.inj hend
      exact hother hx (List.cons.inj hy).1
    · next hshort => exact absurd rfl (hshort x y rest)
  · next hshort =>
    -- with two bytes behind the padding there are two bytes at all
    cases padding with
    | nil => exact absurd rfl (hshort x y rest)
    | cons z padding =>
      cases padding with
      | nil => exact absurd rfl (hshort z x (y :: rest))
      | cons w padding => exact absurd rfl (hshort z w (padding ++ x :: y :: rest))

/-- What opens a part does not close the body. -/
theorem Opens.not_closes {b head : Bytes} (h : Opens b head) : ¬ Closes b := by
  rintro ⟨rest, hclose⟩
  obtain ⟨padding, hpad, rfl⟩ := h
  -- a hyphen is no padding, so it would have to be the end of the line
  cases padding with
  | nil => exact absurd (List.cons.inj hclose).1 (by decide)
  | cons x padding =>
    obtain rfl : x = 45 := (List.cons.inj hclose).1
    exact absurd (hpad 45 List.mem_cons_self) (by decide)

theorem Opens.afterBoundary_eq {b head : Bytes} (h : Opens b head) :
    afterBoundary b = .ok (some head) := by
  have hcloses := h.not_closes
  obtain ⟨padding, hpad, rfl⟩ := h
  rw [List.append_assoc] at hcloses ⊢
  exact afterBoundary_padding hpad (by decide) 10 head hcloses

theorem Strays.afterBoundary_eq {b : Bytes} (h : Strays b) : afterBoundary b = .error .boundary := by
  obtain ⟨hcloses, padding, x, y, rest, hpad, hx, hother, rfl⟩ := h
  rw [afterBoundary_padding hpad hx y rest hcloses, if_neg hother]

theorem closes_of_afterBoundary {b : Bytes} (h : afterBoundary b = .ok none) : Closes b := by
  unfold afterBoundary at h
  split at h
  · next rest => exact ⟨rest, rfl⟩
  · split at h <;> exact absurd h (by simp)
  · exact absurd h (by simp)

theorem opens_of_afterBoundary {b head : Bytes} (h : afterBoundary b = .ok (some head)) :
    Opens b head := by
  unfold afterBoundary at h
  split at h
  · exact absurd h (by simp)
  · next x y r _ =>
    split at h
    · next rest heq =>
      obtain rfl : rest = head := by simpa using h
      refine ⟨(x :: y :: r).takeWhile isPadding, fun z hz => List.mem_takeWhile_imp hz, ?_⟩
      rw [List.append_assoc, show lineEnd ++ rest = 13 :: 10 :: rest from rfl, ← heq,
        List.takeWhile_append_dropWhile]
    · exact absurd h (by simp)
    · exact absurd h (by simp)
  · exact absurd h (by simp)

/-- The reader finds a boundary that strays, or it has not seen enough. -/
theorem afterBoundary_error {b : Bytes} {f : Fault} (h : afterBoundary b = .error f) :
    (f = .boundary ∧ Strays b) ∨ f = .unfinished := by
  unfold afterBoundary at h
  split at h
  · exact absurd h (by simp)
  · next x y r hnot =>
    split at h
    · exact absurd h (by simp)
    · next z w rest hother heq =>
      refine .inl ⟨(Except.error.inj h).symm, ?_, (x :: y :: r).takeWhile isPadding, z, w, rest,
        fun v hv => List.mem_takeWhile_imp hv, ?_, ?_, ?_⟩
      · rintro ⟨rest, hclose⟩
        obtain ⟨hx, hy⟩ := List.cons.inj hclose
        exact hnot hx (List.cons.inj hy).1
      · have hhead := List.head?_dropWhile_not isPadding (x :: y :: r)
        rw [heq] at hhead
        simpa using hhead
      · intro hend
        obtain ⟨hz, hw⟩ := List.cons.inj hend
        exact hother hz (List.cons.inj hw).1
      · rw [← heq, List.takeWhile_append_dropWhile]
    · exact .inr (Except.error.inj h).symm
  · exact .inr (Except.error.inj h).symm

theorem Opens.length_lt {b head : Bytes} (h : Opens b head) : head.length < b.length := by
  obtain ⟨padding, -, rfl⟩ := h
  simp only [lineEnd, List.length_append, List.length_cons]
  omega

theorem Announces.readNames_eq {head body : Bytes} {names : Names}
    (h : Announces head names body) : readNames head = .ok (names, body) := by
  obtain ⟨block, headers, hcut, hheaders, rfl⟩ := h
  unfold readNames
  rw [cut?_eq_some_iff.2 hcut]
  simp only [hheaders]

theorem Announces.length_le {head body : Bytes} {names : Names} (h : Announces head names body) :
    body.length ≤ head.length := by
  obtain ⟨block, headers, hcut, -⟩ := h
  rw [hcut.parts]
  simp only [List.length_append]
  omega

theorem readNames_cases (head : Bytes) :
    (∃ names body, Announces head names body) ∨
      (¬ lineEnd ++ lineEnd <:+: head ∧ readNames head = .error .unfinished) ∨
      ∃ block body, FirstCut (lineEnd ++ lineEnd) head block body ∧
        headersFrom mostHeaders (block ++ lineEnd ++ lineEnd) = none ∧
        readNames head = .error .headers := by
  unfold readNames
  cases hcut : Bytes.cut? (lineEnd ++ lineEnd) head with
  | none => exact .inr (.inl ⟨cut?_eq_none_iff.1 hcut, rfl⟩)
  | some p =>
    have hfirst : FirstCut (lineEnd ++ lineEnd) head p.1 p.2 := cut?_eq_some_iff.1 hcut
    cases hheaders : headersFrom mostHeaders (p.1 ++ lineEnd ++ lineEnd) with
    | none => exact .inr (.inr ⟨p.1, p.2, hfirst, hheaders, by simp only [hheaders]⟩)
    | some headers => exact .inl ⟨namesOf headers, p.2, p.1, headers, hfirst, hheaders, rfl⟩

/-! ## The reader and the grammar -/

theorem Names.upload?_eq_some_iff {names : Names} {name : String} :
    names.upload? = some name ↔ names = ⟨some "file", some name⟩ := by
  obtain ⟨field, file⟩ := names
  unfold Names.upload?
  by_cases h : field = some "file"
  · simp [h]
  · simp [h]

theorem Names.upload?_eq_none_iff {names : Names} :
    names.upload? = none ↔ ∀ name, names ≠ ⟨some "file", some name⟩ := by
  rw [Option.eq_none_iff_forall_ne_some]
  exact forall_congr' fun name => not_congr Names.upload?_eq_some_iff

theorem IsPart.findUpload_eq {boundary b content rest : Bytes} {names : Names}
    (h : IsPart boundary b names content rest) (fuel : Nat) :
    findUpload boundary (fuel + 1) b =
      match names.upload? with
      | some name => .ok (some ⟨name, content⟩)
      | none => findUpload boundary fuel rest := by
  obtain ⟨head, body, hopens, hnames, hcontent⟩ := h
  have hread : readContent boundary names body = .ok (content, rest) := by
    unfold readContent
    rw [cut?_eq_some_iff.2 hcontent]
  rw [findUpload, hopens.afterBoundary_eq]
  simp only [bind, Except.bind, hnames.readNames_eq, hread]
  rfl

theorem IsPart.length_lt {boundary b content rest : Bytes} {names : Names}
    (h : IsPart boundary b names content rest) : rest.length < b.length := by
  obtain ⟨head, body, hopens, hnames, hcontent⟩ := h
  have hhead := hopens.length_lt
  have hbody := hnames.length_le
  have hrest : rest.length ≤ body.length := by
    rw [hcontent.parts]
    simp only [List.length_append]
    omega
  omega

theorem Finds.findUpload_eq {boundary b : Bytes} {u : Option Upload} (h : Finds boundary b u)
    {fuel : Nat} (hfuel : b.length ≤ fuel) : findUpload boundary (fuel + 1) b = .ok u := by
  induction h generalizing fuel with
  | nothing hcloses =>
    rw [findUpload, hcloses.afterBoundary_eq]
    rfl
  | file hpart =>
    rw [hpart.findUpload_eq, Names.upload?_eq_some_iff.2 rfl]
  | later hpart hname _ ih =>
    have hlt := hpart.length_lt
    obtain ⟨n, rfl⟩ := Nat.exists_eq_succ_of_ne_zero (show fuel ≠ 0 by omega)
    rw [hpart.findUpload_eq, Names.upload?_eq_none_iff.2 hname]
    exact ih (by omega)

theorem findUpload_of_afterBoundary_error {boundary b : Bytes} {f : Fault}
    (h : afterBoundary b = .error f) (fuel : Nat) : findUpload boundary (fuel + 1) b = .error f := by
  rw [findUpload, h]
  rfl

theorem Opens.findUpload_of_readNames_error {boundary b head : Bytes} {f : Fault}
    (hopens : Opens b head) (h : readNames head = .error f) (fuel : Nat) :
    findUpload boundary (fuel + 1) b = .error f := by
  rw [findUpload, hopens.afterBoundary_eq]
  simp only [bind, Except.bind, h]

theorem Opens.findUpload_of_readContent_error {boundary b head body : Bytes} {names : Names}
    {f : Fault} (hopens : Opens b head) (hnames : Announces head names body)
    (h : readContent boundary names body = .error f) (fuel : Nat) :
    findUpload boundary (fuel + 1) b = .error f := by
  rw [findUpload, hopens.afterBoundary_eq]
  simp only [bind, Except.bind, hnames.readNames_eq, h]

theorem GoesWrong.findUpload_eq {boundary b : Bytes} {f : Fault} (h : GoesWrong boundary b f)
    {fuel : Nat} (hfuel : b.length ≤ fuel) : findUpload boundary (fuel + 1) b = .error f := by
  induction h generalizing fuel with
  | boundary hstrays => exact findUpload_of_afterBoundary_error hstrays.afterBoundary_eq fuel
  | @unfinished b hcloses hopens hstrays =>
    apply findUpload_of_afterBoundary_error
    cases hafter : afterBoundary b with
    | error f =>
      rcases afterBoundary_error hafter with ⟨-, h⟩ | rfl
      · exact absurd h hstrays
      · rfl
    | ok found =>
      cases found with
      | none => exact absurd (closes_of_afterBoundary hafter) hcloses
      | some head => exact absurd (opens_of_afterBoundary hafter) (hopens head)
  | emptyLine hopens hline =>
    apply hopens.findUpload_of_readNames_error
    unfold readNames
    rw [cut?_eq_none_iff.2 hline]
  | headers hopens hcut hheaders =>
    apply hopens.findUpload_of_readNames_error
    unfold readNames
    rw [cut?_eq_some_iff.2 hcut]
    simp only [hheaders]
  | content hopens hnames hcontent =>
    apply hopens.findUpload_of_readContent_error hnames
    unfold readContent
    rw [cut?_eq_none_iff.2 hcontent]
  | later hpart hname _ ih =>
    have hlt := hpart.length_lt
    obtain ⟨n, rfl⟩ := Nat.exists_eq_succ_of_ne_zero (show fuel ≠ 0 by omega)
    rw [hpart.findUpload_eq, Names.upload?_eq_none_iff.2 hname]
    exact ih (by omega)

/-- What follows a boundary is a part, or closes the body, or goes wrong at once. -/
theorem isPart_or_closes_or_goesWrong (boundary b : Bytes) :
    (∃ names content rest, IsPart boundary b names content rest) ∨ Closes b ∨
      ∃ f, GoesWrong boundary b f := by
  by_cases hcloses : Closes b
  · exact .inr (.inl hcloses)
  by_cases hopens : ∃ head, Opens b head
  · obtain ⟨head, hopens⟩ := hopens
    rcases readNames_cases head with ⟨names, body, hnames⟩ | ⟨hline, -⟩ | ⟨block, body, hcut, hbad, -⟩
    · cases hcut : Bytes.cut? (lineEnd ++ delimiter boundary) body with
      | none => exact .inr (.inr ⟨_, .content hopens hnames (cut?_eq_none_iff.1 hcut)⟩)
      | some p => exact .inl ⟨names, p.1, p.2, head, body, hopens, hnames, cut?_eq_some_iff.1 hcut⟩
    · exact .inr (.inr ⟨_, .emptyLine hopens hline⟩)
    · exact .inr (.inr ⟨_, .headers hopens hcut hbad⟩)
  by_cases hstrays : Strays b
  · exact .inr (.inr ⟨_, .boundary hstrays⟩)
  · exact .inr (.inr ⟨_, .unfinished hcloses (fun head hhead => hopens ⟨head, hhead⟩) hstrays⟩)

theorem finds_or_goesWrong (boundary b : Bytes) :
    (∃ u, Finds boundary b u) ∨ ∃ f, GoesWrong boundary b f := by
  induction hlen : b.length using Nat.strong_induction_on generalizing b with
  | _ n ih =>
    rcases isPart_or_closes_or_goesWrong boundary b with ⟨names, content, rest, hpart⟩ | hcloses | hbad
    · by_cases hname : ∃ name, names = ⟨some "file", some name⟩
      · obtain ⟨name, rfl⟩ := hname
        exact .inl ⟨_, .file hpart⟩
      · have hother : ∀ name, names ≠ ⟨some "file", some name⟩ := fun name h => hname ⟨name, h⟩
        have hlt : rest.length < n := hlen ▸ hpart.length_lt
        rcases ih rest.length hlt rest rfl with ⟨u, hu⟩ | ⟨f, hf⟩
        · exact .inl ⟨u, .later hpart hother hu⟩
        · exact .inr ⟨f, .later hpart hother hf⟩
    · exact .inl ⟨none, .nothing hcloses⟩
    · exact .inr hbad

theorem Holds.upload?_eq {boundary body : Bytes} {u : Option Upload} (h : Holds boundary body u) :
    upload? boundary body = .ok u := by
  obtain ⟨preamble, b, hcut, hfinds⟩ := h
  unfold upload?
  rw [cut?_eq_some_iff.2 hcut]
  refine hfinds.findUpload_eq ?_
  rw [hcut.parts]
  simp only [List.length_append]
  omega

theorem Broken.upload?_eq {boundary body : Bytes} {f : Fault} (h : Broken boundary body f) :
    upload? boundary body = .error f := by
  unfold upload?
  rcases h with ⟨hnone, rfl⟩ | ⟨preamble, b, hcut, hbad⟩
  · rw [cut?_eq_none_iff.2 hnone]
  · rw [cut?_eq_some_iff.2 hcut]
    refine hbad.findUpload_eq ?_
    rw [hcut.parts]
    simp only [List.length_append]
    omega

/-- Every body is in parts as far as its upload goes, or goes wrong before. -/
theorem holds_or_broken (boundary body : Bytes) :
    (∃ u, Holds boundary body u) ∨ ∃ f, Broken boundary body f := by
  cases hcut : Bytes.cut? (delimiter boundary) body with
  | none => exact .inr ⟨.unfinished, .inl ⟨cut?_eq_none_iff.1 hcut, rfl⟩⟩
  | some p =>
    have hfirst : FirstCut (delimiter boundary) body p.1 p.2 := cut?_eq_some_iff.1 hcut
    rcases finds_or_goesWrong boundary p.2 with ⟨u, hu⟩ | ⟨f, hf⟩
    · exact .inl ⟨u, p.1, p.2, hfirst, hu⟩
    · exact .inr ⟨f, .inr ⟨p.1, p.2, hfirst, hf⟩⟩

theorem upload?_eq_ok_iff {boundary body : Bytes} {u : Option Upload} :
    upload? boundary body = .ok u ↔ Holds boundary body u := by
  refine ⟨fun h => ?_, Holds.upload?_eq⟩
  rcases holds_or_broken boundary body with ⟨v, hv⟩ | ⟨f, hf⟩
  · rw [hv.upload?_eq] at h
    exact Except.ok.inj h ▸ hv
  · rw [hf.upload?_eq] at h
    exact absurd h (by simp)

theorem upload?_eq_error_iff {boundary body : Bytes} {f : Fault} :
    upload? boundary body = .error f ↔ Broken boundary body f := by
  refine ⟨fun h => ?_, Broken.upload?_eq⟩
  rcases holds_or_broken boundary body with ⟨u, hu⟩ | ⟨g, hg⟩
  · rw [hu.upload?_eq] at h
    exact absurd h (by simp)
  · rw [hg.upload?_eq] at h
    exact Except.error.inj h ▸ hg

end Cutout.Http.Multipart
