import Cutout.Proofs.Yaml.Quoted

/-!
# Reading bare scalars

A bare scalar is read word by word, with the spaces between the words kept, up to the colon behind it where
it is a key (`Cursor.plainScalar_key`). Where it is a value it ends with its line; but the reader goes on to
what comes next before it can tell that the value does not go on, and nothing hangs on how far it gets there
(`Cursor.plainScalar_value`).
-/

namespace Cutout.Yaml

/-! ## Bare scalars -/

/-- A word of a bare scalar: there is no gap in it, and no colon at its end. -/
structure IsWord (v : List Char) : Prop where
  ne_nil : v ≠ []
  noGap : ∀ x ∈ v, isSpace x = false ∧ isBreak x = false
  noColon : v.getLast? ≠ some ':'

/-- Words and the gaps between them, where no word but the first one begins like a comment. -/
inductive Words : List Char → Prop
  | last {v : List Char} : IsWord v → Words v
  | more {v s u : List Char} : IsWord v → s ≠ [] → (∀ x ∈ s, isSpace x = true) →
      u.head? ≠ some '#' → Words u → Words (v ++ (s ++ u))

section Words

variable {x : Char} {cs v : List Char} {b : Bool}

theorem IsWord.cons (h : IsWord v) (hx : isSpace x = false ∧ isBreak x = false) : IsWord (x :: v) := by
  refine ⟨List.cons_ne_nil x v, List.forall_mem_cons.2 ⟨hx, h.noGap⟩, ?_⟩
  obtain ⟨y, v, rfl⟩ := List.exists_cons_of_ne_nil h.ne_nil
  rw [List.getLast?_cons_cons]
  exact h.noColon

theorem isWord_singleton (hx : isSpace x = false ∧ isBreak x = false) (hcolon : x ≠ ':') :
    IsWord [x] :=
  ⟨List.cons_ne_nil x [], List.forall_mem_singleton.2 hx, fun h => hcolon (Option.some.inj h)⟩

theorem Words.cons (h : Words cs) (hx : isSpace x = false ∧ isBreak x = false) : Words (x :: cs) := by
  cases h with
  | last hv => exact .last (hv.cons hx)
  | more hv hs hspace hu hwords =>
    rw [← List.cons_append]
    exact .more (hv.cons hx) hs hspace hu hwords

/-- How a bare scalar goes on: with a word, or with a gap in front of one. -/
theorem words_of_continuesPlain (h : continuesPlain b cs = true) (hne : cs ≠ []) :
    ((∀ x ∈ cs.head?, isSpace x = false) → Words cs) ∧
      ((∀ x ∈ cs.head?, isSpace x = true) → ∃ s u, cs = s ++ u ∧ s ≠ [] ∧
        (∀ x ∈ s, isSpace x = true) ∧ u.head? ≠ some '#' ∧ Words u) := by
  induction cs generalizing b with
  | nil => exact absurd rfl hne
  | cons x cs ih =>
    obtain ⟨-, hbreak, hhash, hcolon, hrest⟩ := continuesPlain_cons.1 h
    cases cs with
    | nil =>
      refine ⟨fun hx => .last (isWord_singleton ⟨hx x rfl, hbreak⟩ fun heq => ?_), fun hx => ?_⟩
      · cases hcolon heq
      · rw [continuesPlain, hx x rfl] at hrest
        cases hrest
    | cons y cs =>
      obtain ⟨hword, hgap⟩ := ih hrest (List.cons_ne_nil y cs)
      refine ⟨fun hx => ?_, fun hx => ?_⟩
      · have hx : isSpace x = false ∧ isBreak x = false := ⟨hx x rfl, hbreak⟩
        cases hy : isSpace y with
        | false => exact (hword (by simpa using hy)).cons hx
        | true =>
          obtain ⟨s, u, hsu, hs, hspace, hu, hwords⟩ := hgap (by simpa using hy)
          have hne : x ≠ ':' := by
            intro heq
            have hnot := hcolon heq
            rw [gapAt, hy] at hnot
            cases hnot
          rw [hsu]
          exact .more (isWord_singleton hx hne) hs hspace hu hwords
      · have hspace : isSpace x = true := hx x rfl
        cases hy : isSpace y with
        | false =>
          have hnot : y ≠ '#' := (continuesPlain_cons.1 hrest).2.2.1 hspace
          exact ⟨[x], y :: cs, rfl, List.cons_ne_nil x [], List.forall_mem_singleton.2 hspace,
            by simpa using hnot, hword (by simpa using hy)⟩
        | true =>
          obtain ⟨s, u, hsu, -, hs, hu, hwords⟩ := hgap (by simpa using hy)
          exact ⟨x :: s, u, by rw [hsu]; rfl, List.cons_ne_nil x s,
            List.forall_mem_cons.2 ⟨hspace, hs⟩, hu, hwords⟩

theorem words_of_isPlain (h : isPlain cs = true) : Words cs := by
  obtain ⟨x, cs, rfl⟩ := exists_cons_of_isPlain h
  obtain ⟨hfirst, hcontinues⟩ := isPlain_cons h
  exact (words_of_continuesPlain hcontinues (List.cons_ne_nil x cs)).1
    (by simpa using hfirst.notSpace)

theorem head?_ne_hash_of_isPlain (h : isPlain cs = true) : cs.head? ≠ some '#' := by
  obtain ⟨x, cs, rfl⟩ := exists_cons_of_isPlain h
  exact fun hx => (isPlain_cons h).1.ne_hash (Option.some.inj hx)

theorem Words.ne_nil (h : Words cs) : cs ≠ [] := by
  cases h with
  | last hv => exact hv.ne_nil
  | more hv _ _ _ _ => exact List.append_ne_nil_of_left_ne_nil hv.ne_nil _

theorem Words.head?_noGap (h : Words cs) : ∀ x ∈ cs.head?, isSpace x = false ∧ isBreak x = false := by
  have hhead : ∀ {v r : List Char}, IsWord v → ∀ x ∈ (v ++ r).head?,
      isSpace x = false ∧ isBreak x = false := by
    intro v r hv x hx
    obtain ⟨y, v, rfl⟩ := List.exists_cons_of_ne_nil hv.ne_nil
    obtain rfl : y = x := by simpa using hx
    exact hv.noGap y List.mem_cons_self
  cases h with
  | last hv =>
    rw [← List.append_nil cs]
    exact hhead hv
  | more hv _ _ _ _ => exact hhead hv

end Words

/-- A word of a bare scalar ends here: a gap follows, or a colon and a gap. -/
def endsWord : List Char → Bool
  | ':' :: r => gapAt r
  | r => gapAt r

theorem endsWord_of_gapAt {r : List Char} (h : gapAt r = true) : endsWord r = true := by
  unfold endsWord
  split
  · next r => exact absurd h (by simp [gapAt, isSpace, isBreak])
  · exact h

namespace Cursor

variable {since m : Mark} {fuel floor : Nat} {r v cs : List Char} {g : Gap} {run : PlainRun}

/-- Nothing is read where a word ends. -/
theorem plainWord_end (hr : endsWord r = true) (fuel : Nat) (m : Mark) :
    plainWord false since (fuel + 1) ⟨r, m⟩ = .ok ([], ⟨r, m⟩) := by
  unfold endsWord at hr
  split at hr
  · next r =>
    have hcolon : gapAt (':' :: r) = false := by simp [gapAt, isSpace, isBreak]
    simp only [plainWord, peek_cons, gapAhead_zero, gapAhead_one_cons, hcolon, hr]
    rfl
  · cases r with
    | nil => rfl
    | cons x r => simp only [plainWord, peek_cons, gapAhead_zero, hr, if_true]

/-- A word is read up to where it ends. -/
theorem plainWord_eq (hv : ∀ x ∈ v, isSpace x = false ∧ isBreak x = false)
    (hlast : v.getLast? ≠ some ':') (hr : endsWord r = true) (hfuel : v.length < fuel) :
    plainWord false since fuel ⟨v ++ r, m⟩ = .ok (v, ⟨r, m.right v.length⟩) := by
  induction v generalizing fuel m with
  | nil =>
    obtain ⟨fuel, rfl⟩ := Nat.exists_eq_succ_of_ne_zero (Nat.ne_of_gt hfuel)
    exact plainWord_end hr fuel m
  | cons x v ih =>
    obtain ⟨⟨hspace, hbreak⟩, hv⟩ := List.forall_mem_cons.1 hv
    rw [List.length_cons] at hfuel
    obtain ⟨fuel, rfl⟩ := Nat.exists_eq_succ_of_ne_zero (Nat.ne_of_gt (Nat.zero_lt_of_lt hfuel))
    -- a colon has another character of the word behind it
    have hgoes : (x == ':' && gapAt (v ++ r)) = false := by
      cases v with
      | nil =>
        have hx : x ≠ ':' := fun h => hlast (congrArg some h)
        rw [beq_eq_false_iff_ne.2 hx, Bool.false_and]
      | cons y v =>
        obtain ⟨⟨hy, hy'⟩, -⟩ := List.forall_mem_cons.1 hv
        rw [List.cons_append, gapAt, hy, hy', Bool.or_self, Bool.and_false]
    have hgap : gapAt (x :: (v ++ r)) = false := by rw [gapAt, hspace, hbreak, Bool.or_self]
    have hlast' : v.getLast? ≠ some ':' := by
      cases v with
      | nil => simp
      | cons y v => rwa [List.getLast?_cons_cons] at hlast
    rw [List.cons_append]
    simp only [plainWord, peek_cons, gapAhead_zero, hgap, Bool.false_eq_true, if_false, Bool.false_and,
      gapAhead_one_cons, hgoes, Bool.or_self, skip_one, ih hv hlast' (Nat.lt_of_succ_lt_succ hfuel), bind,
      Except.bind]
    simp [pure, Except.pure, Mark.right_right, Nat.add_comm]

/-- What a reader of a bare scalar does behind a word. -/
def plainBehind (floor : Nat) (since : Mark) (fuel : Nat) (run : PlainRun) (c : Cursor) :
    Reading (PlainRun × Cursor) :=
  if !c.atSpace && !c.atBreak then .ok ({ run with broken := false }, c)
  else do
    let (g, d) ← Gap.empty.read floor since c
    if d.mark.column < floor then return ({ run with broken := g.broken }, d)
    else plainFrom false floor since fuel g run d

theorem plainFrom_word (hv : IsWord v) (hhash : v.head? ≠ some '#') (hr : endsWord r = true)
    (hmarker : (⟨v ++ r, m⟩ : Cursor).atDocumentMarker = false) :
    plainFrom false floor since (fuel + 1) g run ⟨v ++ r, m⟩ =
      plainBehind floor since fuel ⟨run.text ++ g.text ++ v, m.right v.length, false⟩
        ⟨r, m.right v.length⟩ := by
  have hword : plainWord false since ((v ++ r).length + 1) ⟨v ++ r, m⟩ = _ :=
    plainWord_eq hv.noGap hv.noColon hr (by simp only [List.length_append]; omega)
  obtain ⟨x, v, rfl⟩ := List.exists_cons_of_ne_nil hv.ne_nil
  have hsees : (⟨x :: v ++ r, m⟩ : Cursor).sees 0 '#' = false := by
    rw [List.cons_append, sees_zero_cons, beq_eq_false_iff_ne]
    exact fun h => hhash (congrArg some h)
  simp only [plainFrom, hmarker, hsees, Bool.or_self, Bool.false_eq_true, if_false, hword, bind,
    Except.bind, List.isEmpty_cons, Bool.not_false, Bool.true_and, decide_eq_true_eq, plainBehind]
  rfl

/-- Behind a gap on the same line a bare scalar may go on. -/
theorem plainBehind_gap (since : Mark) (fuel : Nat) (run : PlainRun) {s : List Char}
    (hs : ∀ x ∈ s, isSpace x = true) (hne : s ≠ [])
    (hr : ∀ x ∈ r.head?, isSpace x = false ∧ isBreak x = false) (hfloor : floor ≤ m.column + s.length) :
    plainBehind floor since fuel run ⟨s ++ r, m⟩ =
      plainFrom false floor since fuel { Gap.empty with spaces := s } run ⟨r, m.right s.length⟩ := by
  have hspace : (⟨s ++ r, m⟩ : Cursor).atSpace = true := by
    obtain ⟨x, s, rfl⟩ := List.exists_cons_of_ne_nil hne
    exact hs x List.mem_cons_self
  have hgap : Gap.empty.read floor since ⟨s ++ r, m⟩ =
      .ok ({ Gap.empty with spaces := s }, ⟨r, m.right s.length⟩) := by
    rw [Gap.read, List.length_append, Nat.add_comm s.length, Nat.add_right_comm,
      Gap.readFrom_append hs rfl, Gap.readFrom_stop hr]
    rfl
  simp only [plainBehind, hspace, Bool.not_true, Bool.false_and, Bool.false_eq_true, if_false, hgap, bind,
    Except.bind, Mark.right_column, Nat.not_lt.2 hfloor]

/-- Words are read to the end of the last one. -/
theorem plainFrom_eq (since : Mark) (g : Gap) (run : PlainRun) (h : Words cs)
    (hhash : cs.head? ≠ some '#') (hr : endsWord r = true)
    (hmarker : (⟨cs ++ r, m⟩ : Cursor).atDocumentMarker = false) (hfloor : floor ≤ m.column + 1)
    (hfuel : cs.length < fuel) :
    ∃ k, plainFrom false floor since fuel g run ⟨cs ++ r, m⟩ =
      plainBehind floor since (k + 1) ⟨run.text ++ g.text ++ cs, m.right cs.length, false⟩
        ⟨r, m.right cs.length⟩ := by
  induction h generalizing m fuel g run with
  | last hv =>
    obtain ⟨fuel, rfl⟩ := Nat.exists_eq_succ_of_ne_zero (Nat.ne_of_gt (Nat.zero_lt_of_lt hfuel))
    have hpos : fuel ≠ 0 := Nat.ne_of_gt (Nat.lt_of_lt_of_le (List.length_pos_iff.2 hv.ne_nil)
      (Nat.le_of_lt_succ hfuel))
    obtain ⟨fuel, rfl⟩ := Nat.exists_eq_succ_of_ne_zero hpos
    exact ⟨fuel, plainFrom_word hv hhash hr hmarker⟩
  | @more v s u hv hs hspace hu hwords ih =>
    obtain ⟨fuel, rfl⟩ := Nat.exists_eq_succ_of_ne_zero (Nat.ne_of_gt (Nat.zero_lt_of_lt hfuel))
    have hpos := List.length_pos_iff.2 hv.ne_nil
    simp only [List.length_append] at hfuel
    simp only [List.append_assoc] at hmarker ⊢
    have hhash : v.head? ≠ some '#' := by
      obtain ⟨x, v, rfl⟩ := List.exists_cons_of_ne_nil hv.ne_nil
      exact hhash
    have hgap : gapAt (s ++ (u ++ r)) = true := by
      obtain ⟨x, s, rfl⟩ := List.exists_cons_of_ne_nil hs
      rw [List.cons_append, gapAt, hspace x List.mem_cons_self, Bool.true_or]
    have hnext : ∀ x ∈ (u ++ r).head?, isSpace x = false ∧ isBreak x = false := by
      obtain ⟨x, u, rfl⟩ := List.exists_cons_of_ne_nil hwords.ne_nil
      exact hwords.head?_noGap
    obtain ⟨k, hread⟩ := @ih ((m.right v.length).right s.length) fuel
      { Gap.empty with spaces := s } ⟨run.text ++ g.text ++ v, m.right v.length, false⟩ hu
      (atDocumentMarker_of_column (by simp only [Mark.right_column]; omega))
      (by simp only [Mark.right_column]; omega) (by omega)
    refine ⟨k, ?_⟩
    rw [plainFrom_word hv hhash (endsWord_of_gapAt hgap) hmarker,
      plainBehind_gap since fuel _ hspace hs hnext (by rw [Mark.right_column]; omega), hread]
    simp [Mark.right_right, Gap.text, Gap.empty, Nat.add_assoc]

/-- What a bare scalar comes to is a matter of what is done behind its last word. -/
theorem exists_plainScalar_of_behind (hcs : isPlain cs = true) (hr : endsWord r = true)
    (hmarker : (⟨cs ++ r, m⟩ : Cursor).atDocumentMarker = false) (hfloor : floor ≤ m.column + 1) :
    ∃ k, ∀ b d, plainBehind floor m (k + 1) ⟨cs, m.right cs.length, false⟩ ⟨r, m.right cs.length⟩ =
        .ok (⟨cs, m.right cs.length, b⟩, d) →
      plainScalar false floor ⟨cs ++ r, m⟩ =
        .ok (⟨.scalar cs .plain, m, m.right cs.length⟩, b, d) := by
  have hfuel : cs.length < (cs ++ r).length + 1 := by
    rw [List.length_append]
    omega
  obtain ⟨k, hread⟩ := plainFrom_eq m Gap.empty ⟨[], m, false⟩ (words_of_isPlain hcs)
    (head?_ne_hash_of_isPlain hcs) hr hmarker hfloor hfuel
  refine ⟨k, fun b d hbehind => ?_⟩
  rw [plainScalar, hread, List.nil_append, Gap.text_empty, List.nil_append, hbehind]
  rfl

/-! ### Keys -/

/-- A bare scalar does not go on with a colon in front of a gap. -/
theorem plainFrom_colon (hr : gapAt r = true) (hcolumn : m.column ≠ 0) :
    plainFrom false floor since (fuel + 1) g run ⟨':' :: r, m⟩ =
      .ok ({ run with broken := g.broken }, ⟨':' :: r, m⟩) := by
  have hmarker : (⟨':' :: r, m⟩ : Cursor).atDocumentMarker = false := atDocumentMarker_of_column hcolumn
  have hspace : isSpace ':' = false := by decide
  have hbreak : isBreak ':' = false := by decide
  simp only [plainFrom, hmarker, sees_zero_cons, plainWord_end (r := ':' :: r) hr, bind, Except.bind,
    atSpace_cons, atBreak_cons, hspace, hbreak]
  rfl

/-- A key ends in front of its colon, or of the gap before it, which is passed over. -/
theorem plainScalar_key (hcs : isPlain cs = true) (s : Spacing) (hr : gapAt r = true)
    (hfloor : floor ≤ m.column + 1)
    (hmarker : (⟨cs ++ (s.chars ++ ':' :: r), m⟩ : Cursor).atDocumentMarker = false) :
    plainScalar false floor ⟨cs ++ (s.chars ++ ':' :: r), m⟩ =
      .ok (⟨.scalar cs .plain, m, m.right cs.length⟩, false,
        ⟨':' :: r, m.right (cs.length + s.chars.length)⟩) := by
  have hcolon : ∀ x ∈ (':' :: r).head?, isSpace x = false ∧ isBreak x = false := by
    rintro x ⟨⟩
    decide
  have hends : endsWord (s.chars ++ ':' :: r) = true := by
    by_cases hnil : s.chars = []
    · rw [hnil]
      exact hr
    · exact endsWord_of_gapAt ((Separator.mk s hnil).gapAt _)
  have hpos := List.length_pos_iff.2 (words_of_isPlain hcs).ne_nil
  obtain ⟨fuel, hscalar⟩ := exists_plainScalar_of_behind hcs hends hmarker hfloor
  refine hscalar false _ ?_
  by_cases hnil : s.chars = []
  · rw [hnil]
    rfl
  · rw [plainBehind_gap m (fuel + 1) _ s.fits hnil hcolon (by rw [Mark.right_column]; omega),
      plainFrom_colon hr (by simp only [Mark.right_column]; omega), Mark.right_right]
    rfl

end Cursor

/-! ### Values -/

/-- Behind a line end a reader passes to what comes next, or to a comment in front of it. -/
theorem Gap.readFrom_lead (floor : Nat) (since : Mark) {fuel : Nat} {g : Gap} {c : Cursor}
    (hfuel : c.rest.length < fuel) (hg : g.broken = true)
    (htab : (lead false c.mark.column c.rest).2.head? ≠ some '\t') :
    ∃ g' d, Gap.readFrom floor since fuel g c = .ok (g', d) ∧ g'.broken = true ∧
      d.atSpace = false ∧ d.atBreak = false ∧
      lead false d.mark.column d.rest = lead false c.mark.column c.rest := by
  induction fuel generalizing g c with
  | zero => omega
  | succ fuel ih =>
    unfold readFrom
    by_cases hspace : c.atSpace = true
    · obtain ⟨rest, m⟩ := c
      cases rest with
      | nil => cases hspace
      | cons x r =>
        have hx : x = ' ' := by
          rcases Bool.or_eq_true _ _ ▸ (show (x == ' ' || x == '\t') = true from hspace) with h | h
          · exact beq_iff_eq.1 h
          · rw [beq_iff_eq.1 h, lead_here (by decide) (by decide) (by decide)] at htab
            exact absurd rfl htab
        subst hx
        rw [lead_space] at htab ⊢
        obtain ⟨g', d, hread, hrest⟩ := ih (g := g) (c := ⟨r, m.right 1⟩)
          (by simp only [List.length_cons] at hfuel ⊢; omega) hg htab
        rw [if_pos hspace, if_neg (by simp), if_pos hg, Cursor.skip_one]
        exact ⟨g', d, hread, hrest⟩
    · rw [if_neg hspace]
      by_cases hbreak : c.atBreak = true
      -- the next line begins in column 0, and what it leads to is the same
      · obtain ⟨hnext, hcolumn, hlt⟩ := lead_lineBreak (b := false) (n := c.mark.column) hbreak
        rw [hnext, ← hcolumn] at htab ⊢
        rw [if_pos hbreak]
        simp only [hg, if_true]
        exact ih (c := c.lineBreak.2) (by omega) rfl htab
      · rw [if_neg hbreak]
        exact ⟨g, c, rfl, hg, by simpa using hspace, by simpa using hbreak, rfl⟩

/-- A line end behind a gap is passed, and what comes next is reached up to a comment in front of it. -/
theorem Gap.read_line (floor : Nat) (since m : Mark) (s : Spacing) (r : List Char)
    (htab : (lead false 0 r).2.head? ≠ some '\t') :
    ∃ g d, Gap.empty.read floor since ⟨s.chars ++ '\n' :: r, m⟩ = .ok (g, d) ∧
      g.broken = true ∧ d.atSpace = false ∧ d.atBreak = false ∧
      lead false d.mark.column d.rest = lead false 0 r := by
  have hlong : (s.chars ++ '\n' :: r).length + 1 = r.length + 1 + 1 + s.chars.length := by
    simp only [List.length_append, List.length_cons]
    omega
  obtain ⟨g, d, hread, hrest⟩ := Gap.readFrom_lead floor since (g := ⟨[], ['\n'], [], true⟩)
    (c := (⟨'\n' :: r, m.right s.chars.length⟩ : Cursor).nextLine 1)
    (Nat.lt_succ_self r.length) rfl htab
  refine ⟨g, d, ?_, hrest⟩
  rw [Gap.read, hlong, Gap.readFrom_append s.fits rfl, ← hread]
  rfl

/-- From here a scanner gets to what `text` leads to. Where a key is not allowed yet, it has to pass to a
new line. -/
inductive Reaches (text : List Char) : Bool → Cursor → Prop
  | line {m : Mark} (e : LineEnd) : IsOver text → Reaches text false ⟨e.chars ++ text, m⟩
  | next {c : Cursor} : lead false c.mark.column c.rest = lead false 0 text → Reaches text true c

namespace Cursor

variable {since m : Mark} {fuel floor n : Nat} {r text cs : List Char} {g : Gap} {run : PlainRun}

/-- A bare scalar does not go on with a comment. -/
theorem plainFrom_hash :
    plainFrom false floor since (fuel + 1) g run ⟨'#' :: r, m⟩ =
      .ok ({ run with broken := g.broken }, ⟨'#' :: r, m⟩) := by
  simp [plainFrom]

/-- A bare scalar does not go on behind the end of the text. -/
theorem plainFrom_nil :
    plainFrom false floor since (fuel + 1) g run ⟨[], m⟩ =
      .ok ({ run with broken := g.broken }, ⟨[], m⟩) := by
  have hmarker : (⟨[], m⟩ : Cursor).atDocumentMarker = false := by
    simp [atDocumentMarker, atMarker, sees, ahead]
  rw [plainFrom, hmarker]
  rfl

/-- Behind the last word of a value comes a comment. -/
theorem plainBehind_comment (since : Mark) (fuel : Nat) (run : PlainRun) (s : Separator)
    (hfloor : floor ≤ m.column) :
    plainBehind floor since (fuel + 1) run ⟨s.chars ++ '#' :: r, m⟩ =
      .ok ({ run with broken := false }, ⟨'#' :: r, m.right s.chars.length⟩) := by
  rw [plainBehind_gap since _ run s.fits s.ne_nil (by rintro x ⟨⟩; decide) (by omega), plainFrom_hash]
  rfl

/-- Behind the last word of a value the text is over. -/
theorem plainBehind_end (since : Mark) (fuel : Nat) (run : PlainRun) (s : Spacing)
    (hfloor : floor ≤ m.column) :
    plainBehind floor since (fuel + 1) run ⟨s.chars, m⟩ =
      .ok ({ run with broken := false }, ⟨[], m.right s.chars.length⟩) := by
  by_cases hnil : s.chars = []
  · rw [hnil]
    rfl
  · have h := plainBehind_gap (r := []) since (fuel + 1) run s.fits hnil (by simp)
      (show floor ≤ m.column + s.chars.length by omega)
    rw [List.append_nil] at h
    rw [h, plainFrom_nil]
    rfl

/-- Behind the last word of a value its line ends, and what comes next further left is not taken for a
part of the value. -/
theorem exists_plainBehind_line (since m : Mark) (fuel : Nat) (run : PlainRun) (s : Spacing)
    (hlead : LeadsWithin n ('\n' :: r)) (hn : n < floor) :
    ∃ d, plainBehind floor since (fuel + 1) run ⟨s.chars ++ '\n' :: r, m⟩ =
        .ok ({ run with broken := true }, d) ∧
      lead false d.mark.column d.rest = lead false 0 ('\n' :: r) := by
  have hnext : lead false 0 ('\n' :: r) = lead false 0 r := lead_break (by decide)
  rw [LeadsWithin, hnext] at hlead
  obtain ⟨g, d, hread, hg, hspace, hbreak, hsame⟩ := Gap.read_line floor since m s r hlead.2
  have hgap : (!(⟨s.chars ++ '\n' :: r, m⟩ : Cursor).atSpace &&
      !(⟨s.chars ++ '\n' :: r, m⟩ : Cursor).atBreak) = false := by
    obtain ⟨chars, fits⟩ := s
    cases chars with
    | nil => rfl
    | cons x xs =>
      rw [List.cons_append, atSpace_cons, fits x List.mem_cons_self]
      rfl
  refine ⟨d, ?_, hsame.trans hnext.symm⟩
  simp only [plainBehind, hgap, Bool.false_eq_true, if_false, hread, bind, Except.bind]
  by_cases hlow : d.mark.column < floor
  · rw [if_pos hlow, hg]
    rfl
  · -- so far right there is nothing but a comment, which ends the scalar as well
    obtain ⟨rest, mark⟩ := d
    cases rest with
    | nil => rw [if_neg hlow, plainFrom_nil, hg]
    | cons x s =>
      by_cases hhash : x = '#'
      · rw [if_neg hlow, hhash, plainFrom_hash, hg]
      · have hx : x ≠ ' ' := fun heq => by
          rw [heq] at hspace
          cases hspace
        rw [← hsame, lead_here hbreak hx hhash] at hlead
        exact absurd (Nat.lt_of_le_of_lt hlead.1 hn) hlow

/-- Behind the last word of a value its line ends, perhaps with a comment. -/
theorem exists_plainBehind (since : Mark) (fuel : Nat) (run : PlainRun) (t : Trail) (htext : IsOver text)
    (hlead : LeadsWithin n text) (hn : n < floor) (hfloor : floor ≤ m.column) :
    ∃ b d, plainBehind floor since (fuel + 1) run ⟨t.chars ++ text, m⟩ =
        .ok ({ run with broken := b }, d) ∧
      Reaches text b d := by
  obtain ⟨⟨spacing, comment, fits⟩, apart⟩ := t
  cases comment with
  | some c =>
    refine ⟨false, ⟨'#' :: (c.toList ++ text), m.right spacing.chars.length⟩, ?_,
      Reaches.line ⟨.none, some c, fits⟩ htext⟩
    have h := plainBehind_comment since fuel run (r := c.toList ++ text) ⟨spacing, apart rfl⟩ hfloor
    simpa [LineEnd.chars] using h
  | none =>
    cases htext with
    | text =>
      refine ⟨false, ⟨[], m.right spacing.chars.length⟩, ?_,
        Reaches.line ⟨.none, none, fits⟩ .text⟩
      simpa [LineEnd.chars] using plainBehind_end since fuel run spacing hfloor
    | line r =>
      obtain ⟨d, hread, hsame⟩ := exists_plainBehind_line since m fuel run spacing hlead hn
      exact ⟨true, d, by simpa [LineEnd.chars] using hread, .next hsame⟩

/-- A value ends with its line. -/
theorem plainScalar_value (hcs : isPlain cs = true) (t : Trail) (htext : IsOver text)
    (hlead : LeadsWithin n text) (hn : n < floor) (hfloor : floor ≤ m.column) (hcolumn : m.column ≠ 0) :
    ∃ b d, plainScalar false floor ⟨cs ++ (t.chars ++ text), m⟩ =
        .ok (⟨.scalar cs .plain, m, m.right cs.length⟩, b, d) ∧ Reaches text b d := by
  have hends : endsWord (t.chars ++ text) = true := endsWord_of_gapAt (t.gapAt htext)
  have hfloor' : floor ≤ (m.right cs.length).column := Nat.le_add_right_of_le hfloor
  obtain ⟨k, hscalar⟩ := exists_plainScalar_of_behind hcs hends (atDocumentMarker_of_column hcolumn)
    (Nat.le_succ_of_le hfloor)
  obtain ⟨b, d, hbehind, hreaches⟩ := exists_plainBehind m k ⟨cs, m.right cs.length, false⟩ t htext
    hlead hn hfloor'
  exact ⟨b, d, hscalar b d hbehind, hreaches⟩

end Cursor

end Cutout.Yaml
