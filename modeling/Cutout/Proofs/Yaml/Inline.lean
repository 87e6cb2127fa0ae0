import Cutout.Proofs.Yaml.Number

/-!
# Scalars on one line

The ways to write a scalar that fits on a line (`Inline`): bare, which leaves no room for a colon before a
gap or a comment (`isPlain`), or between quotation marks of either kind, character by character with all
escapes (`Piece`). Beside the characters stands the scalar that a reader should find in them.
-/

namespace Cutout.Yaml

/-! ## Bare scalars -/

/-- Here is a space, a tab, a line end or the end of the text. -/
def gapAt : List Char → Bool
  | [] => true
  | x :: _ => isSpace x || isBreak x

/-- A bare scalar can go on like this up to its end; the first argument says that a space precedes. -/
def continuesPlain : Bool → List Char → Bool
  | spaced, [] => !spaced
  | spaced, x :: xs =>
    Document.isAllowed x && !isBreak x && !(spaced && x == '#') && !(x == ':' && gapAt xs) &&
      continuesPlain (isSpace x) xs

/-- A bare scalar can begin like this. -/
def beginsPlain : List Char → Bool
  | [] => false
  | x :: xs =>
    !isSpace x && (!Scanner.isIndicator x || ((x == '-' || x == '?' || x == ':') && !gapAt xs))

/-- The characters are a bare scalar on one line. -/
def isPlain (cs : List Char) : Bool :=
  beginsPlain cs && continuesPlain false cs

section Plain

variable {cs xs r : List Char} {x : Char} {b : Bool}

theorem gapAt_append (h : xs ≠ []) : gapAt (xs ++ r) = gapAt xs := by
  obtain ⟨x, xs, rfl⟩ := List.exists_cons_of_ne_nil h
  rfl

theorem gapAt_append_of_not (h : gapAt xs = false) : gapAt (xs ++ r) = false := by
  rw [gapAt_append, h]
  rintro rfl
  cases h

/-- What a bare scalar goes on with, character by character. -/
theorem continuesPlain_cons : continuesPlain b (x :: xs) = true ↔
    Document.isAllowed x = true ∧ isBreak x = false ∧ (b = true → x ≠ '#') ∧
      (x = ':' → gapAt xs = false) ∧ continuesPlain (isSpace x) xs = true := by
  simp [continuesPlain, and_assoc, Decidable.imp_iff_not_or]

/-- The beginning of a bare scalar. -/
structure IsFirst (x : Char) (xs : List Char) : Prop where
  notSpace : isSpace x = false
  notBreak : isBreak x = false
  notIndicator : Scanner.isIndicator x = false ∨ (x = '-' ∨ x = '?' ∨ x = ':') ∧ gapAt xs = false

theorem IsFirst.append (h : IsFirst x xs) : IsFirst x (xs ++ r) :=
  ⟨h.notSpace, h.notBreak, h.notIndicator.imp_right fun ⟨hsign, hgap⟩ =>
    ⟨hsign, gapAt_append_of_not hgap⟩⟩

theorem IsFirst.ne_hash (h : IsFirst x xs) : x ≠ '#' := by
  rintro rfl
  rcases h.notIndicator with hnot | ⟨hnot, -⟩ <;> revert hnot <;> decide

theorem isPlain_cons (h : isPlain (x :: xs) = true) :
    IsFirst x xs ∧ continuesPlain false (x :: xs) = true := by
  rw [isPlain, Bool.and_eq_true] at h
  obtain ⟨hbegins, hcontinues⟩ := h
  have hbreak := (continuesPlain_cons.1 hcontinues).2.1
  simp only [beginsPlain, Bool.and_eq_true, Bool.or_eq_true, Bool.not_eq_true', beq_iff_eq,
    or_assoc] at hbegins
  exact ⟨⟨hbegins.1, hbreak, hbegins.2⟩, hcontinues⟩

theorem exists_cons_of_isPlain (h : isPlain cs = true) : ∃ x xs, cs = x :: xs := by
  cases cs with
  | nil => cases h
  | cons x xs => exact ⟨x, xs, rfl⟩

theorem isAllowed_of_continuesPlain (h : continuesPlain b cs = true) :
    ∀ x ∈ cs, Document.isAllowed x = true := by
  induction cs generalizing b with
  | nil => exact fun x hx => absurd hx List.not_mem_nil
  | cons x xs ih =>
    obtain ⟨hallowed, -, -, -, hrest⟩ := continuesPlain_cons.1 h
    exact List.forall_mem_cons.2 ⟨hallowed, ih hrest⟩

/-- Letters, numbers and underscores go on as they like. -/
theorem continuesPlain_of_isNameChar (h : ∀ x ∈ cs, isNameChar x = true) :
    continuesPlain false cs = true := by
  induction cs with
  | nil => rfl
  | cons x xs ih =>
    obtain ⟨hx, hxs⟩ := List.forall_mem_cons.1 h
    rw [continuesPlain_cons, isSpace_of_isNameChar hx]
    have hcolon : x ≠ ':' := ne_of_isNameChar hx (by decide)
    exact ⟨isAllowed_of_isNameChar hx, isBreak_of_isNameChar hx, nofun, fun h => absurd h hcolon,
      ih hxs⟩

theorem isIndicator_of_isNameChar (h : isNameChar x = true) : Scanner.isIndicator x = false := by
  rw [Scanner.isIndicator, List.contains_eq_mem, decide_eq_false_iff_not]
  intro hx
  have hspecial : "-?:,[]\x7b\x7d#&*!|>'\"%@`".toList.all specialChars.contains = true := by
    decide +kernel
  exact ne_of_isNameChar h (List.contains_iff_mem.1 (List.all_eq_true.1 hspecial x hx)) rfl

/-- A bare word is a bare scalar. -/
theorem IsBare.isPlain (h : IsBare cs) : isPlain cs = true := by
  obtain ⟨v, hcs, hne, hv⟩ := h
  obtain ⟨x, xs, rfl⟩ := List.exists_cons_of_ne_nil hne
  have hx : isNameChar x = true := hv x List.mem_cons_self
  have hcontinues := continuesPlain_of_isNameChar hv
  rcases hcs with rfl | rfl
  · rw [Yaml.isPlain, hcontinues, beginsPlain, isSpace_of_isNameChar hx, isIndicator_of_isNameChar hx]
    rfl
  · have hgap : gapAt (x :: xs) = false := by
      rw [gapAt, isSpace_of_isNameChar hx, isBreak_of_isNameChar hx]
      rfl
    rw [Yaml.isPlain, beginsPlain, hgap, Bool.and_eq_true, continuesPlain_cons]
    exact ⟨by decide, by decide, by decide, by simp, by simp, hcontinues⟩

end Plain

/-! ## Quoted scalars -/

/-- How a character is written between quotation marks, single ones if so. -/
inductive IsPiece : Bool → List Char → Char → Prop
  /-- It stands for itself. -/
  | char {single : Bool} {x : Char} : Document.isAllowed x = true → isBreak x = false →
      x ≠ Cursor.quoteMark single → (single = false → x ≠ '\\') → IsPiece single [x] x
  /-- A single quotation mark is written twice. -/
  | twice : IsPiece true ['\'', '\''] '\''
  /-- A letter that a backslash gives a meaning. -/
  | letter {x y : Char} : Cursor.escaped? x = some y → IsPiece false ['\\', x] y
  /-- The number of the character, in hexadecimal digits. -/
  | code {x : Char} {ds : List Char} {v : Nat} : Cursor.escapeWidth? x = some ds.length →
      number? 16 ds = some v → ¬ (0xD800 ≤ v ∧ v ≤ 0xDFFF) → v ≤ 0x10FFFF →
      IsPiece false ('\\' :: x :: ds) (Char.ofNat v)

/-- A character as it is written between quotation marks. -/
structure Piece (single : Bool) where
  chars : List Char
  reads : Char
  fits : IsPiece single chars reads

/-- A scalar on one line, as it is written. -/
inductive Inline where
  | plain (text : List Char) (fits : isPlain text = true)
  | quoted (single : Bool) (pieces : List (Piece single))

namespace Inline

/-- How the scalar is written. -/
def chars : Inline → List Char
  | plain text _ => text
  | quoted single pieces =>
    Cursor.quoteMark single :: (pieces.flatMap Piece.chars ++ [Cursor.quoteMark single])

/-- The scalar. -/
def scalar : Inline → Scalar
  | plain text _ => ⟨none, text, .plain⟩
  | quoted single pieces =>
    ⟨none, pieces.map Piece.reads, if single then .singleQuoted else .doubleQuoted⟩

theorem tag_scalar (v : Inline) : v.scalar.tag = none := by
  cases v <;> rfl

/-- What is written first means something: it is no space, no line end and not the beginning of a
comment. -/
theorem exists_head (v : Inline) :
    ∃ x w, v.chars = x :: w ∧ isSpace x = false ∧ isBreak x = false ∧ x ≠ '#' := by
  cases v with
  | plain text fits =>
    obtain ⟨x, w, rfl⟩ := exists_cons_of_isPlain fits
    obtain ⟨hfirst, -⟩ := isPlain_cons fits
    exact ⟨x, w, rfl, hfirst.notSpace, hfirst.notBreak, hfirst.ne_hash⟩
  | quoted single pieces =>
    exact ⟨_, _, rfl, by cases single <;> decide, by cases single <;> decide,
      by cases single <;> decide⟩

end Inline

section Pieces

variable {single : Bool}

theorem isPrintable_of_digit? {c : Char} (h : (Text.digit? 16 c).isSome = true) :
    isPrintable c = true := by
  have hrange : (48 ≤ c.toNat ∧ c.toNat ≤ 57) ∨ (97 ≤ c.toNat ∧ c.toNat ≤ 102) ∨
      (65 ≤ c.toNat ∧ c.toNat ≤ 70) := by
    unfold Text.digit? at h
    dsimp only at h
    split at h
    · next hdigit => exact .inl (Char.isDigit_iff_toNat.1 hdigit)
    · split at h
      · next hlower =>
        rw [Bool.and_eq_true, decide_eq_true_eq, decide_eq_true_eq] at hlower
        exact .inr (.inl hlower)
      · split at h
        · next hupper =>
          rw [Bool.and_eq_true, decide_eq_true_eq, decide_eq_true_eq] at hupper
          exact .inr (.inr hupper)
        · cases h
  rw [isPrintable, Bool.and_eq_true, decide_eq_true_eq, decide_eq_true_eq]
  omega

theorem isAllowed_of_escaped? {x y : Char} (h : Cursor.escaped? x = some y) :
    Document.isAllowed x = true ∧ isBreak x = false := by
  unfold Cursor.escaped? at h
  split at h
  all_goals first | decide | cases h

theorem isPrintable_of_escapeWidth? {x : Char} {n : Nat} (h : Cursor.escapeWidth? x = some n) :
    isPrintable x = true := by
  unfold Cursor.escapeWidth? at h
  split at h
  all_goals first | decide | cases h

theorem Piece.isAllowed (p : Piece single) : ∀ x ∈ p.chars, Document.isAllowed x = true := by
  obtain ⟨chars, reads, fits⟩ := p
  have hslash : Document.isAllowed '\\' = true := by decide
  cases fits with
  | char hallowed _ _ _ => exact List.forall_mem_singleton.2 hallowed
  | twice =>
    have hmark : Document.isAllowed '\'' = true := by decide
    exact List.forall_mem_cons.2 ⟨hmark, List.forall_mem_singleton.2 hmark⟩
  | letter hletter =>
    exact List.forall_mem_cons.2 ⟨hslash, List.forall_mem_singleton.2 (isAllowed_of_escaped? hletter).1⟩
  | code hwidth hnumber _ _ =>
    refine List.forall_mem_cons.2 ⟨hslash, List.forall_mem_cons.2 ⟨?_, fun c hc => ?_⟩⟩
    · exact isAllowed_of_isPrintable (isPrintable_of_escapeWidth? hwidth)
    · exact isAllowed_of_isPrintable (isPrintable_of_digit? (isSome_digit?_of_number? hnumber c hc))

end Pieces

/-! ## Between and behind scalars -/

/-- Spaces and tabs. -/
structure Spacing where
  chars : List Char
  fits : ∀ x ∈ chars, isSpace x = true

/-- Nothing is between. -/
def Spacing.none : Spacing :=
  ⟨[], fun _ h => absurd h List.not_mem_nil⟩

@[simp] theorem Spacing.chars_none : Spacing.none.chars = [] := rfl

/-- At least one space or tab. -/
structure Separator extends Spacing where
  ne_nil : chars ≠ []

/-- A single space. -/
def Separator.space : Separator :=
  ⟨⟨[' '], List.forall_mem_singleton.2 rfl⟩, List.cons_ne_nil ' ' []⟩

@[simp] theorem Separator.chars_space : Separator.space.chars = [' '] := rfl

/-- What a line may end with: spaces and tabs, and perhaps a comment. -/
structure LineEnd where
  spacing : Spacing
  comment : Option String
  fits : comment.all (·.toList.all isPrintable) = true

/-- How the end of a line is written. -/
def LineEnd.chars (e : LineEnd) : List Char :=
  e.spacing.chars ++ e.comment.elim [] (fun c => '#' :: c.toList)

/-- What can stand on a line behind something: a comment has a space or a tab in front. -/
structure Trail extends LineEnd where
  apart : comment.isSome = true → spacing.chars ≠ []

/-- Nothing is behind. -/
def Trail.none : Trail :=
  ⟨⟨.none, Option.none, rfl⟩, by decide⟩

@[simp] theorem Trail.chars_none : Trail.none.chars = [] := rfl

theorem isAllowed_of_isSpace {x : Char} (h : isSpace x = true) : Document.isAllowed x = true := by
  rw [isSpace, Bool.or_eq_true, beq_iff_eq, beq_iff_eq] at h
  rcases h with rfl | rfl <;> decide

theorem Spacing.isAllowed (s : Spacing) : ∀ x ∈ s.chars, Document.isAllowed x = true :=
  fun x hx => isAllowed_of_isSpace (s.fits x hx)

theorem isAllowed_comment {comment : Option String}
    (h : comment.all (·.toList.all isPrintable) = true) :
    ∀ x ∈ comment.elim [] (fun c => '#' :: c.toList), Document.isAllowed x = true := by
  cases comment with
  | none => exact fun x hx => absurd hx List.not_mem_nil
  | some c =>
    have hprintable : ∀ x ∈ c.toList, isPrintable x = true := List.all_eq_true.1 h
    exact List.forall_mem_cons.2 ⟨by decide, fun x hx => isAllowed_of_isPrintable (hprintable x hx)⟩

theorem LineEnd.isAllowed (e : LineEnd) : ∀ x ∈ e.chars, Document.isAllowed x = true :=
  List.forall_mem_append.2 ⟨e.spacing.isAllowed, isAllowed_comment e.fits⟩

/-- A space or a tab is a gap. -/
theorem Separator.gapAt (s : Separator) (r : List Char) : gapAt (s.chars ++ r) = true := by
  obtain ⟨x, xs, hs⟩ := List.exists_cons_of_ne_nil s.ne_nil
  rw [hs, List.cons_append, Yaml.gapAt, s.fits x (hs ▸ List.mem_cons_self), Bool.true_or]

/-- A scalar on one line is written in characters that a text may hold. -/
theorem Inline.isAllowed (v : Inline) : ∀ x ∈ v.chars, Document.isAllowed x = true := by
  cases v with
  | plain text fits =>
    rw [isPlain, Bool.and_eq_true] at fits
    exact isAllowed_of_continuesPlain fits.2
  | quoted single pieces =>
    have hmark : Document.isAllowed (Cursor.quoteMark single) = true := by cases single <;> decide
    rw [chars, List.forall_mem_cons, List.forall_mem_append]
    refine ⟨hmark, fun x hx => ?_, List.forall_mem_singleton.2 hmark⟩
    obtain ⟨p, -, hp⟩ := List.mem_flatMap.1 hx
    exact p.isAllowed x hp

end Cutout.Yaml
