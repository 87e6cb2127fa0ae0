import Cutout.Proofs.Yaml.Inline
import Cutout.Yaml.Token.Scan
import Mathlib.Data.List.TakeWhile

/-!
# Passing over what means nothing

Between two entries of a mapping stand spaces, comments and line ends. `lead` says where they lead to:
the column and the text of what comes next. A scanner passes over them in one go
(`Scanner.toNextToken_eq`), and a bare value at the end of a line passes over some of them already, up
to the first comment (`Gap.readFrom_lead`); both leave what is led to as it was.
-/

namespace Cutout.Yaml

/-! ## Marks and cursors -/

/-- The place `n` characters further on the same line. -/
def Mark.right (m : Mark) (n : Nat) : Mark :=
  ⟨m.index + n, m.line, m.column + n⟩

@[simp] theorem Mark.right_index (m : Mark) (n : Nat) : (m.right n).index = m.index + n := rfl

@[simp] theorem Mark.right_line (m : Mark) (n : Nat) : (m.right n).line = m.line := rfl

@[simp] theorem Mark.right_column (m : Mark) (n : Nat) : (m.right n).column = m.column + n := rfl

theorem Mark.right_right (m : Mark) (a b : Nat) : (m.right a).right b = m.right (a + b) := by
  simp only [Mark.right, Nat.add_assoc]

namespace Cursor

variable {x y : Char} {r : List Char} {m : Mark}

@[simp] theorem peek_cons : (⟨x :: r, m⟩ : Cursor).peek = some x := rfl

@[simp] theorem ahead_zero_cons : (⟨x :: r, m⟩ : Cursor).ahead 0 = some x := rfl

@[simp] theorem ahead_succ_cons (n : Nat) :
    (⟨x :: r, m⟩ : Cursor).ahead (n + 1) = (⟨r, m⟩ : Cursor).ahead n := rfl

@[simp] theorem sees_zero_cons : (⟨x :: r, m⟩ : Cursor).sees 0 y = (x == y) := by
  simp [sees]

@[simp] theorem atSpace_cons : (⟨x :: r, m⟩ : Cursor).atSpace = isSpace x := rfl

@[simp] theorem atBreak_cons : (⟨x :: r, m⟩ : Cursor).atBreak = isBreak x := rfl

@[simp] theorem gapAhead_zero : (⟨r, m⟩ : Cursor).gapAhead 0 = gapAt r := by
  cases r <;> rfl

@[simp] theorem gapAhead_one_cons : (⟨x :: r, m⟩ : Cursor).gapAhead 1 = (⟨r, m⟩ : Cursor).gapAhead 0 :=
  rfl

theorem skip_one (x : Char) (r : List Char) (m : Mark) :
    (⟨x :: r, m⟩ : Cursor).skip 1 = ⟨r, m.right 1⟩ := by
  simp [skip, Mark.right]

theorem atDocumentMarker_of_column {c : Cursor} (h : c.mark.column ≠ 0) :
    c.atDocumentMarker = false := by
  simp [atDocumentMarker, atMarker, h]

/-- A line end is at most two characters, and the next line begins behind it. -/
theorem lineBreak_of_atBreak {c : Cursor} (h : c.atBreak = true) :
    (∃ x r, c.rest = x :: r ∧ isBreak x = true ∧ c.lineBreak.2 = c.nextLine 1) ∨
      ∃ r, c.rest = '\r' :: '\n' :: r ∧ c.lineBreak.2 = c.nextLine 2 := by
  obtain ⟨rest, m⟩ := c
  cases rest with
  | nil => cases h
  | cons x r =>
    rw [atBreak_cons] at h
    unfold lineBreak
    split
    · next r' heq => exact .inr ⟨r', heq, rfl⟩
    · next x' r' _ heq =>
      cases heq
      refine .inl ⟨x, r, rfl, h, ?_⟩
      split
      · rfl
      · rfl
    · next heq => cases heq

end Cursor

/-! ## What comes next -/

/-- The column and the text of what comes next behind spaces, comments and line ends, from column `n`
on; the end of the text counts as the beginning of a line. The first argument says that a comment goes
on. -/
def lead : Bool → Nat → List Char → Nat × List Char
  | _, _, [] => (0, [])
  | inComment, n, x :: r =>
    if isBreak x then lead false 0 r
    else if inComment || x == '#' then lead true (n + 1) r
    else if x == ' ' then lead false (n + 1) r
    else (n, x :: r)

section Lead

variable {x : Char} {b : Bool} {n : Nat} {r : List Char}

theorem lead_break (h : isBreak x = true) : lead b n (x :: r) = lead false 0 r := by
  simp [lead, h]

theorem lead_space : lead false n (' ' :: r) = lead false (n + 1) r := by
  simp [lead, isBreak]

theorem lead_spaces (k : Nat) :
    lead false n (List.replicate k ' ' ++ r) = lead false (n + k) r := by
  induction k generalizing n with
  | zero => rfl
  | succ k ih => rw [List.replicate_succ, List.cons_append, lead_space, ih, Nat.add_right_comm]; rfl

theorem lead_hash : lead false n ('#' :: r) = lead true (n + 1) r := by
  simp [lead, isBreak]

/-- A comment goes on to the end of its line. -/
theorem lead_comment {s : List Char} (h : ∀ x ∈ s, isBreak x = false) :
    lead true n (s ++ r) = lead true (n + s.length) r := by
  induction s generalizing n with
  | nil => rfl
  | cons x s ih =>
    obtain ⟨hx, hs⟩ := List.forall_mem_cons.1 h
    simp only [List.cons_append, lead, hx, Bool.false_eq_true, if_false, Bool.true_or, if_true]
    rw [ih hs, List.length_cons]
    congr 1
    omega

/-- Something that means something is led to at once. -/
theorem lead_here (hbreak : isBreak x = false) (hspace : x ≠ ' ') (hhash : x ≠ '#') :
    lead false n (x :: r) = (n, x :: r) := by
  simp [lead, hbreak, hspace, hhash]

theorem lead_lineBreak {c : Cursor} (h : c.atBreak = true) :
    lead b n c.rest = lead false 0 c.lineBreak.2.rest ∧ c.lineBreak.2.mark.column = 0 ∧
      c.lineBreak.2.rest.length < c.rest.length := by
  rcases Cursor.lineBreak_of_atBreak h with ⟨x, r, hr, hx, hd⟩ | ⟨r, hr, hd⟩
  · simp [hd, hr, Cursor.nextLine, lead_break hx]
  · simp only [hd, hr, Cursor.nextLine, List.drop_succ_cons, List.drop_zero, true_and,
      List.length_cons]
    exact ⟨by rw [lead_break (by decide), lead_break (by decide)], by omega⟩

/-- What comes next stands at most in column `n`, and is no tab. -/
def LeadsWithin (n : Nat) (text : List Char) : Prop :=
  (lead false 0 text).1 ≤ n ∧ (lead false 0 text).2.head? ≠ some '\t'

/-- Here a line ends, or the whole text. -/
inductive IsOver : List Char → Prop
  | text : IsOver []
  | line (r : List Char) : IsOver ('\n' :: r)

theorem gapAt_of_isOver {text : List Char} (h : IsOver text) : gapAt text = true := by
  cases h <;> rfl

/-- Behind something a line goes on with a gap. -/
theorem Trail.gapAt (t : Trail) {text : List Char} (h : IsOver text) :
    gapAt (t.chars ++ text) = true := by
  rw [LineEnd.chars, List.append_assoc]
  by_cases hnil : t.spacing.chars = []
  · cases hcomment : t.comment with
    | some c => exact absurd hnil (t.apart (by rw [hcomment]; rfl))
    | none =>
      rw [hnil]
      exact gapAt_of_isOver h
  · exact (Separator.mk t.spacing hnil).gapAt _

/-- No line ends in a comment. -/
theorem isBreak_comment {c : String} (h : (some c).all (·.toList.all isPrintable) = true) :
    ∀ x ∈ c.toList, isBreak x = false :=
  fun x hx => isBreak_of_isPrintable (List.all_eq_true.1 h x hx)

/-- A line without content leads to what the next line leads to. -/
theorem Filler.lead_line (f : Filler) {text : List Char} (h : IsOver text) :
    lead false n (f.line ++ text) = lead false 0 text := by
  have hover : ∀ b m, lead b m text = lead false 0 text := by
    intro b m
    cases h with
    | text => rfl
    | line r => rw [lead_break (by decide), lead_break (by decide)]
  obtain ⟨indent, comment, fits⟩ := f
  rw [line, List.append_assoc, lead_spaces]
  cases comment with
  | none => exact hover false _
  | some c =>
    rw [Option.elim_some, List.cons_append, lead_hash, lead_comment (isBreak_comment fits)]
    exact hover true _

end Lead

/-! ## Scanning over it -/

section Passing

variable {n : Nat} {p : Char → Bool}

/-- Passing over spaces changes nothing. -/
theorem lead_dropWhile_space (hp : ∀ x, p x = (x == ' ')) (cs : List Char) :
    lead false n cs = lead false (n + (cs.takeWhile p).length) (cs.dropWhile p) := by
  induction cs generalizing n with
  | nil => rfl
  | cons x r ih =>
    by_cases hx : x = ' '
    · have hpx : p x = true := by rw [hp, hx]; rfl
      rw [List.takeWhile_cons_of_pos hpx, List.dropWhile_cons_of_pos hpx, List.length_cons, hx,
        lead_space, ih, Nat.add_right_comm, Nat.add_assoc]
    · have hpx : ¬ p x = true := by rw [hp, beq_iff_eq]; exact hx
      rw [List.takeWhile_cons_of_neg hpx, List.dropWhile_cons_of_neg hpx]
      rfl

/-- Passing over the rest of a comment changes nothing. -/
theorem lead_dropWhile_comment (cs : List Char) :
    lead true n cs =
      lead true (n + (cs.takeWhile (!isBreak ·)).length) (cs.dropWhile (!isBreak ·)) := by
  have h := lead_comment (n := n) (s := cs.takeWhile (!isBreak ·)) (r := cs.dropWhile (!isBreak ·))
    fun x hx => by simpa using List.mem_takeWhile_imp hx
  rwa [List.takeWhile_append_dropWhile] at h

/-- Passing over spaces and a comment changes nothing, and leads to the end of the line or to what
comes next. -/
theorem lead_skipComment (hp : ∀ x, p x = (x == ' ')) (c d : Cursor)
    (hd : d = (c.skipWhile p).skipComment) :
    lead false c.mark.column c.rest = lead false d.mark.column d.rest ∧
      (d.atBreak = false → d.rest ≠ [] → lead false d.mark.column d.rest = (d.mark.column, d.rest)) ∧
      d.rest.length ≤ c.rest.length := by
  have hspaces := lead_dropWhile_space (n := c.mark.column) hp c.rest
  have hle := (List.dropWhile_suffix p (l := c.rest)).length_le
  have hhead := List.head?_dropWhile_not p c.rest
  have hskip : c.skipWhile p = ⟨c.rest.dropWhile p, c.mark.right (c.rest.takeWhile p).length⟩ := rfl
  generalize hn : (c.rest.takeWhile p).length = k at hspaces hskip
  generalize c.rest.dropWhile p = r at hspaces hle hhead hskip
  rw [hskip] at hd
  rw [hspaces]
  cases r with
  | nil => subst hd; exact ⟨rfl, fun _ h => absurd rfl h, hle⟩
  | cons x r =>
    by_cases hx : x = '#'
    · have hcomment := lead_dropWhile_comment (n := c.mark.column + k + 1) r
      have hd' : d = ⟨r.dropWhile (!isBreak ·),
          (c.mark.right k).right ((r.takeWhile (!isBreak ·)).length + 1)⟩ := by
        subst hd hx
        rfl
      have hstop := List.head?_dropWhile_not (!isBreak ·) r
      have hshort := (List.dropWhile_suffix (!isBreak ·) (l := r)).length_le
      rw [hx, lead_hash, hcomment]
      generalize r.dropWhile (!isBreak ·) = e at hd' hstop hshort
      subst hd'
      cases e with
      | nil => exact ⟨rfl, fun _ h => absurd rfl h, Nat.zero_le _⟩
      | cons y e =>
        have hy : isBreak y = true := by simpa using hstop
        refine ⟨by rw [lead_break hy, lead_break hy], fun h _ => ?_, ?_⟩
        · rw [Cursor.atBreak_cons, hy] at h
          cases h
        · simp only [List.length_cons] at hle hshort ⊢
          omega
    · have hd' : d = ⟨x :: r, c.mark.right k⟩ := by
        subst hd
        simp [Cursor.skipComment, hx]
      subst hd'
      refine ⟨rfl, fun h _ => lead_here h ?_ hx, hle⟩
      rintro rfl
      simp [hp] at hhead

end Passing

namespace Scanner

/-- Where a key is allowed, a scanner passes to what comes next. -/
theorem toNextToken_eq {fuel : Nat} {s : Scanner} (hfuel : s.cursor.rest.length < fuel)
    (hallowed : s.keyAllowed = true) (hblock : s.inFlow = false) :
    ∃ m, s.toNextToken fuel =
        { s with cursor := ⟨(lead false s.cursor.mark.column s.cursor.rest).2, m⟩ } ∧
      ((lead false s.cursor.mark.column s.cursor.rest).2 ≠ [] →
        m.column = (lead false s.cursor.mark.column s.cursor.rest).1) := by
  induction fuel generalizing s with
  | zero => omega
  | succ fuel ih =>
    have hp : ∀ x, (x == ' ' || ((s.inFlow || !s.keyAllowed) && x == '\t')) = (x == ' ') := by
      simp [hallowed, hblock]
    obtain ⟨d, hd⟩ : ∃ d, d = (s.cursor.skipWhile fun x => x == ' ' ||
        ((s.inFlow || !s.keyAllowed) && x == '\t')).skipComment := ⟨_, rfl⟩
    have heq : s.toNextToken (fuel + 1) =
        if d.atBreak then
          toNextToken fuel { s with cursor := d.lineBreak.2, keyAllowed := s.keyAllowed || !s.inFlow }
        else { s with cursor := d } := by
      rw [hd]
      rfl
    obtain ⟨hsame, hstop, hle⟩ := lead_skipComment hp s.cursor d hd
    rw [heq, hsame]
    cases hbreak : d.atBreak with
    | true =>
      obtain ⟨hnext, hcolumn, hlt⟩ := lead_lineBreak (b := false) (n := d.mark.column) hbreak
      obtain ⟨m, hm, hat⟩ := ih
        (s := { s with cursor := d.lineBreak.2, keyAllowed := s.keyAllowed || !s.inFlow })
        (by simp only; omega) (by simp [hallowed]) hblock
      rw [if_pos rfl, hnext, ← hcolumn]
      exact ⟨m, by rw [hm]; simp [hallowed], hat⟩
    | false =>
      rw [if_neg Bool.false_ne_true]
      refine ⟨d.mark, ?_⟩
      by_cases hend : d.rest = []
      · have hnone : lead false d.mark.column d.rest = (0, []) := by rw [hend]; rfl
        rw [hnone, ← hend]
        exact ⟨rfl, fun h => absurd rfl h⟩
      · rw [hstop hbreak hend]
        exact ⟨rfl, fun _ => rfl⟩

/-- Where no key is allowed, spaces and tabs are passed over up to something else. -/
theorem skipWhile_spacing {p : Char → Bool} {r : List Char} (s : Spacing)
    (hp : ∀ x, p x = isSpace x) (hr : ∀ x ∈ r.head?, isSpace x = false) (m : Mark) :
    (⟨s.chars ++ r, m⟩ : Cursor).skipWhile p = ⟨r, m.right s.chars.length⟩ := by
  have hall : ∀ x ∈ s.chars, p x = true := fun x hx => (hp x).trans (s.fits x hx)
  have hstop : r.takeWhile p = [] ∧ r.dropWhile p = r := by
    cases r with
    | nil => exact ⟨rfl, rfl⟩
    | cons x r => simp [hp, hr x rfl]
  have hrun : (s.chars ++ r).takeWhile p = s.chars := by
    rw [List.takeWhile_append_of_pos hall, hstop.1, List.append_nil]
  rw [Cursor.skipWhile, Cursor.span]
  simp only [hrun, List.dropWhile_append_of_pos hall, hstop.2, Mark.right]

/-- The end of a line is passed over. -/
theorem exists_skipComment (e : LineEnd) {text : List Char} {p : Char → Bool}
    (hp : ∀ x, p x = isSpace x) (htext : IsOver text) (m : Mark) :
    ∃ m', ((⟨e.chars ++ text, m⟩ : Cursor).skipWhile p).skipComment = ⟨text, m'⟩ := by
  have hover : ∀ x ∈ text.head?, isSpace x = false := by
    cases htext with
    | text => exact fun x hx => absurd hx (Option.not_mem_none x)
    | line r =>
      rintro x ⟨⟩
      decide
  obtain ⟨spacing, comment, fits⟩ := e
  rw [LineEnd.chars, List.append_assoc]
  cases comment with
  | none =>
    refine ⟨m.right spacing.chars.length, ?_⟩
    rw [Option.elim_none, List.nil_append, skipWhile_spacing _ hp hover]
    cases htext <;> rfl
  | some c =>
    have hhash : ∀ x ∈ ('#' :: (c.toList ++ text)).head?, isSpace x = false := by
      rintro x ⟨⟩
      decide
    rw [Option.elim_some, List.cons_append, skipWhile_spacing _ hp hhash]
    refine ⟨_, congrArg (Cursor.mk · _) ?_⟩
    show ('#' :: (c.toList ++ text)).dropWhile (!isBreak ·) = text
    have hall : ∀ x ∈ '#' :: c.toList, (!isBreak x) = true :=
      List.forall_mem_cons.2 ⟨by decide, fun x hx => by rw [isBreak_comment fits x hx]; rfl⟩
    rw [← List.cons_append, List.dropWhile_append_of_pos hall]
    cases htext <;> rfl

/-- Where no key is allowed and the line ends, a scanner passes to what comes next; on a new line a key
is allowed. -/
theorem toNextToken_line {s : Scanner} (e : LineEnd) {text : List Char}
    (hrest : s.cursor.rest = e.chars ++ text) (htext : IsOver text) (hkey : s.keyAllowed = false)
    (hblock : s.inFlow = false) :
    ∃ m a, s.toNextToken (s.cursor.rest.length + 1) =
        { s with cursor := ⟨(lead false 0 text).2, m⟩, keyAllowed := a } ∧
      ((lead false 0 text).2 ≠ [] → m.column = (lead false 0 text).1 ∧ a = true) := by
  obtain ⟨⟨rest, m⟩, reversed, count, indents, allowed, key, outer⟩ := s
  obtain rfl : rest = e.chars ++ text := hrest
  obtain rfl : allowed = false := hkey
  obtain ⟨m', hm⟩ := exists_skipComment e
    (p := fun x => x == ' ' || ((!outer.isEmpty || !false) && x == '\t')) (by simp [isSpace]) htext m
  rw [toNextToken]
  simp only [inFlow, hm]
  cases htext with
  | text => exact ⟨m', false, rfl, fun h => absurd rfl h⟩
  | line r =>
    have hlt : r.length < (e.chars ++ '\n' :: r).length := by
      rw [List.length_append, List.length_cons]
      omega
    obtain ⟨m'', hnext, hcolumn⟩ := toNextToken_eq
      (s := ⟨⟨r, ⟨m'.index + 1, m'.line + 1, 0⟩⟩, reversed, count, indents, true, key, outer⟩) hlt rfl
      hblock
    refine ⟨m'', true, ?_, fun h => ⟨?_, rfl⟩⟩
    · rw [lead_break (by decide)]
      have hblock' : outer.isEmpty = true := by simpa [inFlow] using hblock
      simpa [hblock', Cursor.lineBreak, Cursor.nextLine, isBreak] using hnext
    · rw [lead_break (by decide)] at h ⊢
      exact hcolumn h

end Scanner

end Cutout.Yaml
