import Cutout.Proofs.Http.Body
import Cutout.Proofs.Http.Multipart.Grammar

/-!
# Reading a body while it arrives

What stands in a body is settled as soon as it is complete, and so is a fault that no other bytes can
mend: bytes behind it do not count (`Holds.append`, `Broken.append`). The reader stops where it has to
wait and what is there is settled; else it goes on to the end of the body, to the limit or to the failure
of the connection.

So there are four ways for it to end (`Ends`), told apart by the pieces and the grammar alone: `Gives`
and `Shows` if it finds an upload or a fault, `Overruns` and `BreaksOff` if it is not done before the
limit or the failure. One of them is the case for every body, and it is what `read` answers
(`ends_read`). How the bytes that are taken in are divided into pieces is nowhere looked at.
-/

namespace Cutout.Http.Multipart

open Bytes (FirstCut)

variable {boundary b head body content rest : Bytes} {names : Names} {u : Option Upload} {f : Fault}

/-! ## Bytes behind what is read -/

theorem Closes.append (h : Closes b) (tail : Bytes) : Closes (b ++ tail) := by
  obtain ⟨rest, rfl⟩ := h
  exact ⟨rest ++ tail, rfl⟩

theorem Opens.append (h : Opens b head) (tail : Bytes) : Opens (b ++ tail) (head ++ tail) := by
  obtain ⟨padding, hpadding, rfl⟩ := h
  exact ⟨padding, hpadding, by simp only [List.append_assoc]⟩

theorem Strays.append (h : Strays b) (tail : Bytes) : Strays (b ++ tail) := by
  obtain ⟨hcloses, padding, x, y, rest, hpad, hx, hother, rfl⟩ := h
  refine ⟨?_, padding, x, y, rest ++ tail, hpad, hx, hother, by simp⟩
  -- what closes the body stands in its first two bytes, and these are there already
  rintro ⟨rest', hclose⟩
  have hshort : [45, 45] <+: padding ++ x :: y :: rest := by
    refine List.prefix_of_prefix_length_le ⟨rest', hclose.symm⟩ ⟨tail, rfl⟩ ?_
    simp only [List.length_append, List.length_cons, List.length_nil]
    omega
  obtain ⟨rest'', hrest⟩ := hshort
  exact hcloses ⟨rest'', hrest.symm⟩

theorem Announces.append (h : Announces head names body) (tail : Bytes) :
    Announces (head ++ tail) names (body ++ tail) := by
  obtain ⟨block, headers, hcut, hheaders, hnames⟩ := h
  exact ⟨block, headers, hcut.append tail, hheaders, hnames⟩

theorem IsPart.append (h : IsPart boundary b names content rest) (tail : Bytes) :
    IsPart boundary (b ++ tail) names content (rest ++ tail) := by
  obtain ⟨head, body, hopens, hnames, hcontent⟩ := h
  exact ⟨head ++ tail, body ++ tail, hopens.append tail, hnames.append tail, hcontent.append tail⟩

theorem Finds.append (h : Finds boundary b u) (tail : Bytes) : Finds boundary (b ++ tail) u := by
  induction h with
  | nothing hcloses => exact .nothing (hcloses.append tail)
  | file hpart => exact .file (hpart.append tail)
  | later hpart hother _ ih => exact .later (hpart.append tail) hother ih

/-- **What stands in a body stands in it whatever follows.** -/
theorem Holds.append (h : Holds boundary body u) (tail : Bytes) :
    Holds boundary (body ++ tail) u := by
  obtain ⟨preamble, b, hcut, hfinds⟩ := h
  exact ⟨preamble, b ++ tail, hcut.append tail, hfinds.append tail⟩

theorem GoesWrong.append (h : GoesWrong boundary b f) (hfinal : f.isFinal = true) (tail : Bytes) :
    GoesWrong boundary (b ++ tail) f := by
  induction h with
  | boundary hstrays => exact .boundary (hstrays.append tail)
  | headers hopens hcut hheaders => exact .headers (hopens.append tail) (hcut.append tail) hheaders
  | later hpart hother _ ih => exact .later (hpart.append tail) hother (ih hfinal)
  | unfinished | emptyLine | content => exact absurd hfinal Bool.false_ne_true

/-- **A final fault is there whatever follows.** -/
theorem Broken.append (h : Broken boundary body f) (hfinal : f.isFinal = true) (tail : Bytes) :
    Broken boundary (body ++ tail) f := by
  rcases h with ⟨-, rfl⟩ | ⟨preamble, b, hcut, hbad⟩
  · exact absurd hfinal Bool.false_ne_true
  · exact .inr ⟨preamble, b ++ tail, hcut.append tail, hbad.append hfinal tail⟩

/-! ## What is settled -/

/-- What is found in some bytes is the same whatever follows them. -/
def IsSettled (boundary taken : Bytes) : Prop :=
  (∃ u, Holds boundary taken u) ∨ ∃ f, Broken boundary taken f ∧ f.isFinal = true

variable {taken : Bytes}

theorem IsSettled.upload?_append (h : IsSettled boundary taken) (tail : Bytes) :
    upload? boundary (taken ++ tail) = upload? boundary taken := by
  rcases h with ⟨u, hu⟩ | ⟨f, hf, hfinal⟩
  · rw [hu.upload?_eq, (hu.append tail).upload?_eq]
  · rw [hf.upload?_eq, (hf.append hfinal tail).upload?_eq]

theorem IsSettled.settled?_eq (h : IsSettled boundary taken) :
    settled? boundary taken = some (upload? boundary taken) := by
  unfold settled?
  rcases h with ⟨u, hu⟩ | ⟨f, hf, hfinal⟩
  · rw [hu.upload?_eq]
  · simp only [hf.upload?_eq, hfinal, if_true]

theorem settled?_eq_none (h : ¬ IsSettled boundary taken) : settled? boundary taken = none := by
  unfold settled?
  rcases holds_or_broken boundary taken with ⟨u, hu⟩ | ⟨f, hf⟩
  · exact absurd (.inl ⟨u, hu⟩) h
  · have hopen : ¬ f.isFinal = true := fun hfinal => h (.inr ⟨f, hf, hfinal⟩)
    simp only [hf.upload?_eq, if_neg hopen]

/-! ## The reader on its way -/

variable {limit : Nat} {pieces : List Piece}

/-- The reader gets where the pieces lead it, or it has stopped on its way. -/
theorem read_of_reaches {rest : List Piece} (boundary : Bytes) (h : Reaches limit pieces taken rest) :
    read boundary limit [] pieces = read boundary (limit - taken.length) taken rest ∨
      ∃ front, Waits limit pieces front ∧ IsSettled boundary front ∧ front <+: taken ∧
        read boundary limit [] pieces = (upload? boundary front).mapError .fault := by
  -- the reader that has stopped stays where it is, whatever the pieces behind it are
  induction h with
  | start => exact .inl rfl
  | @data taken b rest hreach hle ih =>
    rcases ih with hgoes | ⟨front, hwaits, hsettled, hpre, hstops⟩
    · refine .inl ?_
      rw [hgoes, read, if_neg (by omega), List.length_append, Nat.sub_sub]
    · exact .inr ⟨front, hwaits, hsettled, hpre.trans (List.prefix_append taken b), hstops⟩
  | @wait taken rest hreach ih =>
    rcases ih with hgoes | hstopped
    · by_cases hsettled : IsSettled boundary taken
      · refine .inr ⟨taken, ⟨rest, hreach⟩, hsettled, List.prefix_refl taken, ?_⟩
        rw [hgoes, read, hsettled.settled?_eq]
      · refine .inl ?_
        rw [hgoes, read, settled?_eq_none hsettled]
    · exact .inr hstopped

/-- The reader does not stop before the end of the bytes that are settled in the end. -/
theorem read_eq_upload? (harr : Arrives limit pieces taken ∨
      Waits limit pieces taken ∧ IsSettled boundary taken) :
    read boundary limit [] pieces = (upload? boundary taken).mapError .fault := by
  -- where it has stopped before, the same was settled
  have hstopped : (∃ front, Waits limit pieces front ∧ IsSettled boundary front ∧ front <+: taken ∧
      read boundary limit [] pieces = (upload? boundary front).mapError .fault) →
      read boundary limit [] pieces = (upload? boundary taken).mapError .fault := by
    rintro ⟨front, -, hsettled, ⟨tail, rfl⟩, hstops⟩
    rw [hstops, hsettled.upload?_append]
  rcases harr with harr | ⟨⟨rest, hreach⟩, hsettled⟩
  · rcases read_of_reaches boundary harr with hgoes | hstops
    · rw [hgoes, read]
    · exact hstopped hstops
  · rcases read_of_reaches boundary hreach with hgoes | hstops
    · rw [hgoes, read, hsettled.settled?_eq]
    · exact hstopped hstops

/-! ## How the reading ends -/

/-- An upload, or that there is none, stands in what is there when the body ends or the reader has to
wait. -/
def Gives (boundary : Bytes) (limit : Nat) (pieces : List Piece) (u : Option Upload) : Prop :=
  ∃ taken, (Arrives limit pieces taken ∨ Waits limit pieces taken) ∧ Holds boundary taken u

/-- A fault shows when the body ends, or when the reader has to wait and nothing can mend it. -/
def Shows (boundary : Bytes) (limit : Nat) (pieces : List Piece) (f : Fault) : Prop :=
  ∃ taken, (Arrives limit pieces taken ∨ Waits limit pieces taken ∧ f.isFinal = true) ∧
    Broken boundary taken f

/-- Wherever the reader has to wait, it has to read on. -/
def KeepsOn (boundary : Bytes) (limit : Nat) (pieces : List Piece) : Prop :=
  ∀ taken, Waits limit pieces taken → ¬ IsSettled boundary taken

/-- A piece exceeds the limit, and the reader has to read on up to it. -/
def Overruns (boundary : Bytes) (limit : Nat) (pieces : List Piece) : Prop :=
  KeepsOn boundary limit pieces ∧ Exceeds limit pieces

/-- The connection fails, and the reader has to read on up to there. -/
def BreaksOff (boundary : Bytes) (limit : Nat) (pieces : List Piece) : Prop :=
  KeepsOn boundary limit pieces ∧ Fails limit pieces

theorem Gives.read_eq (h : Gives boundary limit pieces u) :
    read boundary limit [] pieces = .ok u := by
  obtain ⟨taken, harr, hholds⟩ := h
  have hsettled : IsSettled boundary taken := .inl ⟨u, hholds⟩
  rw [read_eq_upload? (harr.imp_right fun hwaits => ⟨hwaits, hsettled⟩), hholds.upload?_eq]
  rfl

theorem Shows.read_eq (h : Shows boundary limit pieces f) :
    read boundary limit [] pieces = .error (.fault f) := by
  obtain ⟨taken, harr, hbroken⟩ := h
  have hsettled (hfinal : f.isFinal = true) : IsSettled boundary taken := .inr ⟨f, hbroken, hfinal⟩
  rw [read_eq_upload? (harr.imp_right fun hwaits => ⟨hwaits.1, hsettled hwaits.2⟩),
    hbroken.upload?_eq]
  rfl

/-- A reader that has to read on gets where the pieces lead it. -/
theorem KeepsOn.read_eq {rest : List Piece} (h : KeepsOn boundary limit pieces)
    (hreach : Reaches limit pieces taken rest) :
    read boundary limit [] pieces = read boundary (limit - taken.length) taken rest := by
  rcases read_of_reaches boundary hreach with hgoes | ⟨front, hwaits, hsettled, -⟩
  · exact hgoes
  · exact absurd hsettled (h front hwaits)

theorem Overruns.read_eq (h : Overruns boundary limit pieces) :
    read boundary limit [] pieces = .error .tooLong := by
  obtain ⟨hkeeps, taken, b, rest, hreach, hlt⟩ := h
  have hle := hreach.length_le
  rw [hkeeps.read_eq hreach, read, if_pos (by omega)]

theorem BreaksOff.read_eq (h : BreaksOff boundary limit pieces) :
    read boundary limit [] pieces = .error .interrupted := by
  obtain ⟨hkeeps, taken, rest, hreach⟩ := h
  rw [hkeeps.read_eq hreach, read]

/-- The four ways, each with what the reader answers. -/
inductive Ends (boundary : Bytes) (limit : Nat) (pieces : List Piece) :
    Except Setback (Option Upload) → Prop
  | gives {u : Option Upload} : Gives boundary limit pieces u → Ends boundary limit pieces (.ok u)
  | shows {f : Fault} :
      Shows boundary limit pieces f → Ends boundary limit pieces (.error (.fault f))
  | overruns : Overruns boundary limit pieces → Ends boundary limit pieces (.error .tooLong)
  | breaksOff : BreaksOff boundary limit pieces → Ends boundary limit pieces (.error .interrupted)

/-- One of the four becomes of every body. -/
theorem exists_ends (boundary : Bytes) (limit : Nat) (pieces : List Piece) :
    ∃ result, Ends boundary limit pieces result := by
  by_cases hkeeps : KeepsOn boundary limit pieces
  · rcases arrives_or_exceeds_or_fails limit pieces with ⟨body, harr⟩ | hexceeds | hfails
    · rcases holds_or_broken boundary body with ⟨u, hu⟩ | ⟨f, hf⟩
      · exact ⟨_, .gives ⟨body, .inl harr, hu⟩⟩
      · exact ⟨_, .shows ⟨body, .inl harr, hf⟩⟩
    · exact ⟨_, .overruns ⟨hkeeps, hexceeds⟩⟩
    · exact ⟨_, .breaksOff ⟨hkeeps, hfails⟩⟩
  · -- there is a pause in which something is settled: an upload, or a fault that cannot be mended
    unfold KeepsOn at hkeeps
    push Not at hkeeps
    obtain ⟨taken, hwaits, ⟨u, hu⟩ | ⟨f, hf, hfinal⟩⟩ := hkeeps
    · exact ⟨_, .gives ⟨taken, .inr hwaits, hu⟩⟩
    · exact ⟨_, .shows ⟨taken, .inr ⟨hwaits, hfinal⟩, hf⟩⟩

theorem Gives.unique {v : Option Upload} (h : Gives boundary limit pieces u)
    (h' : Gives boundary limit pieces v) : u = v :=
  Except.ok.inj (h.read_eq.symm.trans h'.read_eq)

end Cutout.Http.Multipart
