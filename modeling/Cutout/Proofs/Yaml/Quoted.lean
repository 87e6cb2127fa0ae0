import Cutout.Proofs.Yaml.Inline
import Cutout.Proofs.Yaml.Lead

/-!
# Reading scalars between quotation marks

A scalar between quotation marks is read word by word, with the spaces between the words kept: it comes to
the characters that its pieces stand for, and nothing behind the closing mark is touched
(`Cursor.quotedScalar_eq`).
-/

namespace Cutout.Yaml

/-! ## Gaps -/

section Gaps

variable {floor fuel : Nat} {since m : Mark} {g : Gap} {s r : List Char}

@[simp] theorem Gap.text_empty : Gap.empty.text = [] := rfl

/-- Spaces are kept while no line end has been passed. -/
theorem Gap.readFrom_append (hs : ∀ x ∈ s, isSpace x = true) (hg : g.broken = false) :
    Gap.readFrom floor since (fuel + s.length) g ⟨s ++ r, m⟩ =
      Gap.readFrom floor since fuel { g with spaces := g.spaces ++ s } ⟨r, m.right s.length⟩ := by
  induction s generalizing g m with
  | nil => simp [Mark.right]
  | cons x s ih =>
    obtain ⟨hx, hs⟩ := List.forall_mem_cons.1 hs
    rw [List.length_cons, ← Nat.add_assoc, List.cons_append]
    simp only [readFrom, Cursor.atSpace_cons, hx, hg, Bool.false_and, Bool.false_eq_true, if_false,
      if_true, Cursor.peek_cons, Option.toList_some, Cursor.skip_one]
    rw [ih (g := ⟨g.spaces ++ [x], g.first, g.more, false⟩) hs rfl, Mark.right_right, Nat.add_comm 1]
    simp

/-- A gap ends where there is neither a space nor a line end. -/
theorem Gap.readFrom_stop (hr : ∀ x ∈ r.head?, isSpace x = false ∧ isBreak x = false) :
    Gap.readFrom floor since (fuel + 1) g ⟨r, m⟩ = .ok (g, ⟨r, m⟩) := by
  cases r with
  | nil => rfl
  | cons x r =>
    obtain ⟨hspace, hbreak⟩ := hr x rfl
    simp [readFrom, hspace, hbreak]

end Gaps

namespace Cursor

variable {since m : Mark} {fuel : Nat} {r : List Char} {single : Bool}

/-- Pass over characters that stand first. -/
theorem skip_append (w r : List Char) (m : Mark) :
    (⟨w ++ r, m⟩ : Cursor).skip w.length = ⟨r, m.right w.length⟩ := by
  have hmin : min w.length (w ++ r).length = w.length := by simp
  simp only [skip, hmin, List.drop_left, Mark.right]

/-! ## Scalars between quotation marks -/

theorem hexNumber?_eq {ds : List Char} {v : Nat} (h : number? 16 ds = some v) :
    (⟨ds ++ r, m⟩ : Cursor).hexNumber? ds.length = some v := by
  have hne : ds.isEmpty = false := by
    cases ds with
    | nil => cases h
    | cons d ds => rfl
  rw [number?, hne, if_neg Bool.false_ne_true] at h
  rw [hexNumber?, List.take_left, if_neg (Nat.lt_irrefl _)]
  exact h

theorem escaped?_of_escapeWidth? {x : Char} {n : Nat} (h : escapeWidth? x = some n) :
    escaped? x = none ∧ isBreak x = false := by
  unfold escapeWidth? at h
  split at h
  all_goals first | decide | cases h

end Cursor

/-- The character is a space or a tab that stands for itself. -/
def Piece.isGap {single : Bool} (p : Piece single) : Bool :=
  p.chars.head?.any isSpace

section Pieces

variable {single : Bool}

/-- What stands for a space or a tab in a gap is that space or tab. -/
theorem Piece.eq_of_isGap {p : Piece single} (h : p.isGap = true) :
    p.chars = [p.reads] ∧ isSpace p.reads = true := by
  obtain ⟨chars, reads, fits⟩ := p
  cases fits with
  | char _ _ _ _ => exact ⟨rfl, h⟩
  | twice => exact absurd h (by decide : ¬ isSpace '\'' = true)
  | letter _ => exact absurd h (by decide : ¬ isSpace '\\' = true)
  | code _ _ _ _ => exact absurd h (by decide : ¬ isSpace '\\' = true)

/-- Something that is no space or tab stands first where a character is written that is none. -/
theorem Piece.exists_head {p : Piece single} (h : p.isGap = false) :
    ∃ x xs, p.chars = x :: xs ∧ isSpace x = false ∧ isBreak x = false := by
  obtain ⟨chars, reads, fits⟩ := p
  cases fits with
  | char _ hbreak _ _ => exact ⟨_, [], rfl, h, hbreak⟩
  | twice => exact ⟨'\'', ['\''], rfl, by decide, by decide⟩
  | @letter x _ _ => exact ⟨'\\', [x], rfl, by decide, by decide⟩
  | @code x ds _ _ _ _ _ => exact ⟨'\\', x :: ds, rfl, by decide, by decide⟩

/-- Pieces begin with those that are no gap, and go on with a gap and something else. -/
theorem Piece.exists_word (ps : List (Piece single)) :
    ∃ ws ss us, ps = ws ++ (ss ++ us) ∧ (∀ p ∈ ws, p.isGap = false) ∧ (∀ p ∈ ss, p.isGap = true) ∧
      (∀ p ∈ us.head?, p.isGap = false) ∧ (ss = [] → us = []) := by
  induction ps with
  | nil => exact ⟨[], [], [], rfl, nofun, nofun, nofun, fun _ => rfl⟩
  | cons p ps ih =>
    obtain ⟨ws, ss, us, rfl, hws, hss, hus, hend⟩ := ih
    cases hp : p.isGap with
    | false => exact ⟨p :: ws, ss, us, rfl, List.forall_mem_cons.2 ⟨hp, hws⟩, hss, hus, hend⟩
    | true =>
      cases ws with
      | nil => exact ⟨[], p :: ss, us, rfl, hws, List.forall_mem_cons.2 ⟨hp, hss⟩, hus, nofun⟩
      | cons w ws =>
        refine ⟨[], [p], w :: ws ++ (ss ++ us), rfl, nofun, List.forall_mem_singleton.2 hp, ?_, nofun⟩
        intro q hq
        obtain rfl : w = q := by simpa using hq
        exact hws w List.mem_cons_self

theorem Piece.flatMap_chars_of_isGap {ss : List (Piece single)} (h : ∀ p ∈ ss, p.isGap = true) :
    ss.flatMap Piece.chars = ss.map Piece.reads ∧ ∀ x ∈ ss.map Piece.reads, isSpace x = true := by
  induction ss with
  | nil => exact ⟨rfl, nofun⟩
  | cons p ss ih =>
    obtain ⟨hp, hss⟩ := List.forall_mem_cons.1 h
    obtain ⟨hchars, hspace⟩ := Piece.eq_of_isGap hp
    obtain ⟨heq, hall⟩ := ih hss
    refine ⟨?_, List.forall_mem_cons.2 ⟨hspace, hall⟩⟩
    rw [List.flatMap_cons, hchars, heq]
    rfl

end Pieces

namespace Cursor

variable {since m : Mark} {fuel : Nat} {r : List Char} {single : Bool}

/-- A letter behind a backslash. -/
theorem escape_letter {x y : Char} (h : escaped? x = some y) :
    escape since ⟨'\\' :: x :: r, m⟩ = .ok (y, ⟨r, m.right 2⟩) := by
  have hskip : (⟨'\\' :: x :: r, m⟩ : Cursor).skip 2 = ⟨r, m.right 2⟩ := skip_append ['\\', x] r m
  simp only [escape, ahead_succ_cons, ahead_zero_cons, h, hskip]

/-- The number of a character behind a backslash. -/
theorem escape_code {x : Char} {ds : List Char} {v : Nat} (hwidth : escapeWidth? x = some ds.length)
    (hnumber : number? 16 ds = some v) (hsurrogate : ¬ (0xD800 ≤ v ∧ v ≤ 0xDFFF))
    (hlarge : v ≤ 0x10FFFF) :
    escape since ⟨'\\' :: x :: (ds ++ r), m⟩ = .ok (Char.ofNat v, ⟨r, m.right (ds.length + 2)⟩) := by
  have hskip : (⟨'\\' :: x :: (ds ++ r), m⟩ : Cursor).skip 2 = ⟨ds ++ r, m.right 2⟩ :=
    skip_append ['\\', x] (ds ++ r) m
  have hbad : ((0xD800 ≤ v && v ≤ 0xDFFF) || decide (0x10FFFF < v)) = false := by
    simp only [Bool.or_eq_false_iff, Bool.and_eq_false_iff, decide_eq_false_iff_not]
    omega
  simp only [escape, ahead_succ_cons, ahead_zero_cons, (escaped?_of_escapeWidth? hwidth).1, hwidth,
    hskip, hexNumber?_eq hnumber, skip_append, Mark.right_right, hbad, Bool.false_eq_true, if_false]
  rw [Nat.add_comm]

/-- A character that is no gap is read as what it stands for, and the word goes on. -/
theorem quotedWord_piece {p : Piece single} (hp : p.isGap = false) :
    quotedWord single since (fuel + 1) ⟨p.chars ++ r, m⟩ =
      (quotedWord single since fuel ⟨r, m.right p.chars.length⟩).map fun w => (p.reads :: w.1, w.2) := by
  have hbind : ∀ (y : Char) (x : Reading (List Char × Bool × Cursor))
      (k : List Char × Bool × Cursor → Reading (List Char × Bool × Cursor)),
      (∀ w, k w = .ok (y :: w.1, w.2)) → x >>= k = x.map fun w => (y :: w.1, w.2) := by
    intro y x k hk
    cases x with
    | error e => rfl
    | ok w => exact hk w
  obtain ⟨chars, reads, fits⟩ := p
  cases fits with
  | char _ hbreak hmark hslash =>
    have hspace : isSpace reads = false := hp
    have hmark : (reads == quoteMark single) = false := beq_eq_false_iff_ne.2 hmark
    have htwice : (single && reads == '\'' && (⟨reads :: r, m⟩ : Cursor).sees 1 '\'') = false := by
      cases single with
      | false => rfl
      | true => rw [show (reads == '\'') = false from hmark, Bool.and_false, Bool.false_and]
    have hescape : (!single && reads == '\\') = false := by
      cases single with
      | false => simpa using hslash rfl
      | true => rfl
    rw [List.singleton_append, quotedWord]
    simp only [peek_cons, gapAhead_zero, gapAt, hspace, hbreak, Bool.or_self, Bool.false_eq_true,
      if_false, htwice, hescape, Bool.false_and, hmark, skip_one]
    exact hbind _ _ _ fun _ => rfl
  | twice =>
    have hskip : (⟨'\'' :: '\'' :: r, m⟩ : Cursor).skip 2 = ⟨r, m.right 2⟩ :=
      skip_append ['\'', '\''] r m
    simp only [List.cons_append, List.nil_append]
    rw [quotedWord]
    simp only [peek_cons, gapAhead_zero, gapAt, hskip]
    exact hbind _ _ _ fun _ => rfl
  | @letter x _ hletter =>
    have hbreak : ((⟨'\\' :: x :: r, m⟩ : Cursor).ahead 1).any isBreak = false :=
      (isAllowed_of_escaped? hletter).2
    simp only [List.cons_append, List.nil_append]
    rw [quotedWord]
    simp only [peek_cons, gapAhead_zero, gapAt, escape_letter hletter, hbreak]
    exact hbind _ _ _ fun _ => rfl
  | @code x ds _ hwidth hnumber hsurrogate hlarge =>
    have hbreak : ((⟨'\\' :: x :: (ds ++ r), m⟩ : Cursor).ahead 1).any isBreak = false :=
      (escaped?_of_escapeWidth? hwidth).2
    simp only [List.cons_append]
    rw [quotedWord]
    simp only [peek_cons, gapAhead_zero, gapAt, escape_code hwidth hnumber hsurrogate hlarge, hbreak]
    exact hbind _ _ _ fun _ => rfl

/-- A word is read up to a gap or the closing mark. -/
theorem quotedWord_eq {ws : List (Piece single)} (hws : ∀ p ∈ ws, p.isGap = false)
    (hstop : ∀ fuel m, quotedWord single since (fuel + 1) ⟨r, m⟩ = .ok ([], false, ⟨r, m⟩))
    (hfuel : ws.length < fuel) :
    quotedWord single since fuel ⟨ws.flatMap Piece.chars ++ r, m⟩ =
      .ok (ws.map Piece.reads, false, ⟨r, m.right (ws.flatMap Piece.chars).length⟩) := by
  induction ws generalizing fuel m with
  | nil =>
    obtain ⟨fuel, rfl⟩ := Nat.exists_eq_succ_of_ne_zero (Nat.ne_of_gt hfuel)
    exact hstop fuel m
  | cons p ws ih =>
    obtain ⟨hp, hws⟩ := List.forall_mem_cons.1 hws
    rw [List.length_cons] at hfuel
    obtain ⟨fuel, rfl⟩ := Nat.exists_eq_succ_of_ne_zero (Nat.ne_of_gt (Nat.zero_lt_of_lt hfuel))
    rw [List.flatMap_cons, List.append_assoc, quotedWord_piece hp, ih hws (Nat.lt_of_succ_lt_succ hfuel),
      Mark.right_right, List.length_append]
    rfl

/-- Nothing is read in front of a gap. -/
theorem quotedWord_gap (hr : gapAt r = true) (fuel : Nat) (m : Mark) :
    quotedWord single since (fuel + 1) ⟨r, m⟩ = .ok ([], false, ⟨r, m⟩) := by
  cases r with
  | nil => rfl
  | cons x r => simp only [quotedWord, peek_cons, gapAhead_zero, hr, if_true]

/-- Nothing is read in front of the closing mark, which is no other if it is not doubled. -/
theorem quotedWord_mark (hr : r.head? ≠ some '\'') (fuel : Nat) (m : Mark) :
    quotedWord single since (fuel + 1) ⟨quoteMark single :: r, m⟩ =
      .ok ([], false, ⟨quoteMark single :: r, m⟩) := by
  have hnext : (⟨quoteMark single :: r, m⟩ : Cursor).sees 1 '\'' = false := by
    cases r with
    | nil => rfl
    | cons x r =>
      have hx : x ≠ '\'' := by simpa using hr
      exact beq_eq_false_iff_ne.2 fun h => hx (Option.some.inj h)
  cases single with
  | false => rfl
  | true => simp only [quotedWord, peek_cons, hnext, Bool.and_false, Bool.false_eq_true, if_false]; rfl

theorem length_le_flatMap (ps : List (Piece single)) :
    ps.length ≤ (ps.flatMap Piece.chars).length := by
  induction ps with
  | nil => exact Nat.le_refl 0
  | cons p ps ih =>
    have hp : p.chars ≠ [] := by
      obtain ⟨chars, reads, fits⟩ := p
      cases fits <;> exact List.cons_ne_nil _ _
    have := List.length_pos_iff.2 hp
    rw [List.flatMap_cons, List.length_cons, List.length_append]
    omega

/-- The last word, with the closing mark behind it. -/
theorem quotedFrom_last {ws : List (Piece single)} (hws : ∀ p ∈ ws, p.isGap = false)
    (hr : r.head? ≠ some '\'') (hcolumn : m.column ≠ 0) :
    quotedFrom single since (fuel + 1) ⟨ws.flatMap Piece.chars ++ quoteMark single :: r, m⟩ =
      .ok (ws.map Piece.reads, ⟨r, m.right ((ws.flatMap Piece.chars).length + 1)⟩) := by
  have hmarker : (⟨ws.flatMap Piece.chars ++ quoteMark single :: r, m⟩ : Cursor).atDocumentMarker =
      false := atDocumentMarker_of_column hcolumn
  have hend : (⟨ws.flatMap Piece.chars ++ quoteMark single :: r, m⟩ : Cursor).atEnd = false := by
    simp [atEnd]
  have hlength := length_le_flatMap ws
  have hword : quotedWord single since ((ws.flatMap Piece.chars ++ quoteMark single :: r).length + 1)
      ⟨ws.flatMap Piece.chars ++ quoteMark single :: r, m⟩ = _ :=
    quotedWord_eq hws (quotedWord_mark hr) (by simp only [List.length_append, List.length_cons]; omega)
  simp only [quotedFrom, hmarker, hend, Bool.false_eq_true, if_false, hword, bind, Except.bind,
    sees_zero_cons, beq_self_eq_true, if_true, skip_one, Mark.right_right]
  rfl

/-- A word and the gap behind it, where the text goes on. -/
theorem quotedFrom_word {ws : List (Piece single)} {s : List Char} (hws : ∀ p ∈ ws, p.isGap = false)
    (hs : ∀ x ∈ s, isSpace x = true) (hne : s ≠ [])
    (hr : ∀ x ∈ r.head?, isSpace x = false ∧ isBreak x = false) (hcolumn : m.column ≠ 0) :
    quotedFrom single since (fuel + 1) ⟨ws.flatMap Piece.chars ++ (s ++ r), m⟩ =
      (quotedFrom single since fuel ⟨r, m.right ((ws.flatMap Piece.chars).length + s.length)⟩).map
        fun t => (ws.map Piece.reads ++ s ++ t.1, t.2) := by
  obtain ⟨x, s, rfl⟩ := List.exists_cons_of_ne_nil hne
  have hx : isSpace x = true := hs x List.mem_cons_self
  have hmarker : (⟨ws.flatMap Piece.chars ++ (x :: s ++ r), m⟩ : Cursor).atDocumentMarker = false :=
    atDocumentMarker_of_column hcolumn
  have hend : (⟨ws.flatMap Piece.chars ++ (x :: s ++ r), m⟩ : Cursor).atEnd = false := by simp [atEnd]
  have hlength := length_le_flatMap ws
  have hword : quotedWord single since ((ws.flatMap Piece.chars ++ (x :: s ++ r)).length + 1)
      ⟨ws.flatMap Piece.chars ++ (x :: s ++ r), m⟩ = _ :=
    quotedWord_eq hws (quotedWord_gap (by simp [gapAt, hx]))
      (by simp only [List.length_append, List.length_cons]; omega)
  have hmark : ∀ m, (⟨x :: s ++ r, m⟩ : Cursor).sees 0 (quoteMark single) = false := by
    intro m
    rw [List.cons_append, sees_zero_cons, beq_eq_false_iff_ne]
    rintro rfl
    revert hx
    cases single <;> decide
  have hgap : ∀ m, Gap.readFrom 0 since ((x :: s ++ r).length + 1) { Gap.empty with broken := false }
      ⟨x :: s ++ r, m⟩ = .ok ({ Gap.empty with spaces := x :: s }, ⟨r, m.right (x :: s).length⟩) := by
    intro m
    rw [List.length_append, Nat.add_comm (x :: s).length, Nat.add_right_comm, Gap.readFrom_append hs rfl,
      Gap.readFrom_stop hr]
    rfl
  simp only [quotedFrom, hmarker, hend, Bool.false_eq_true, if_false, hword, bind, Except.bind, hmark,
    Gap.read, hgap, Mark.right_right]
  cases quotedFrom single since fuel
    ⟨r, m.right ((ws.flatMap Piece.chars).length + (x :: s).length)⟩ <;> rfl

/-- Up to the closing mark, words and the gaps between them are read as what they stand for. -/
theorem quotedFrom_eq {ps : List (Piece single)} (hr : r.head? ≠ some '\'') (hcolumn : m.column ≠ 0)
    (hfuel : ps.length < fuel) :
    quotedFrom single since fuel ⟨ps.flatMap Piece.chars ++ quoteMark single :: r, m⟩ =
      .ok (ps.map Piece.reads, ⟨r, m.right ((ps.flatMap Piece.chars).length + 1)⟩) := by
  induction fuel generalizing ps m with
  | zero => omega
  | succ fuel ih =>
    obtain ⟨ws, ss, us, rfl, hws, hss, hus, hover⟩ := Piece.exists_word ps
    by_cases hnil : ss = []
    · obtain rfl := hnil
      obtain rfl := hover rfl
      simpa using quotedFrom_last hws hr hcolumn
    · obtain ⟨hgap, hspaces⟩ := Piece.flatMap_chars_of_isGap hss
      have hnext : ∀ x ∈ (us.flatMap Piece.chars ++ quoteMark single :: r).head?,
          isSpace x = false ∧ isBreak x = false := by
        cases us with
        | nil =>
          rintro x ⟨⟩
          cases single <;> decide
        | cons q us =>
          obtain ⟨y, ys, hq, hspace, hbreak⟩ := Piece.exists_head (hus q rfl)
          rw [List.flatMap_cons, hq]
          rintro x ⟨⟩
          exact ⟨hspace, hbreak⟩
      have hshort : us.length < fuel := by
        have := List.length_pos_iff.2 hnil
        simp only [List.length_append] at hfuel
        omega
      have hrest := @ih (m.right ((ws.flatMap Piece.chars).length + (ss.map Piece.reads).length)) us
        (by rw [Mark.right_column]; omega) hshort
      simp only [List.flatMap_append, List.append_assoc, hgap]
      rw [quotedFrom_word hws hspaces (by simpa using hnil) hnext hcolumn, hrest]
      simp only [Except.map, List.map_append, List.append_assoc, Mark.right_right, List.length_append,
        Nat.add_assoc]

/-- A scalar between quotation marks is read as what it stands for, and nothing behind it is touched. -/
theorem quotedScalar_eq (ps : List (Piece single)) (hr : r.head? ≠ some '\'') :
    quotedScalar single ⟨(Inline.quoted single ps).chars ++ r, m⟩ =
      .ok (⟨(Inline.quoted single ps).scalar.token, m,
          m.right (Inline.quoted single ps).chars.length⟩,
        ⟨r, m.right (Inline.quoted single ps).chars.length⟩) := by
  have hlength := length_le_flatMap ps
  have h : quotedFrom single m
      ((quoteMark single :: (ps.flatMap Piece.chars ++ quoteMark single :: r)).length + 1)
      ⟨ps.flatMap Piece.chars ++ quoteMark single :: r, m.right 1⟩ = _ :=
    quotedFrom_eq hr (by simp) (by simp only [List.length_append, List.length_cons]; omega)
  simp only [quotedScalar, Inline.chars, List.cons_append, List.append_assoc, List.nil_append, skip_one,
    h, bind, Except.bind, Mark.right_right]
  simp [pure, Except.pure, Inline.scalar, Scalar.token, Nat.add_comm]

end Cursor

end Cutout.Yaml
