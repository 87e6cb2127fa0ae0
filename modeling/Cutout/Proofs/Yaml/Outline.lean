import Cutout.Proofs.Yaml.Inline

/-!
# Outlines

The lines of a block mapping (`Outline`): a key with a value on the same line or with lines further right
below it, and lines without content anywhere. Keys and values are written in any of the ways that fit on
a line, with spaces and tabs around the colon and perhaps a comment behind the value. Beside the lines
stand the tokens and the items that a reader should find in them. Lines without content can be put in
anywhere (`Inserts`), and what is left is an outline with the same items (`Outline.exists_of_inserts`).
-/

namespace Cutout.Yaml

/-! ## Keys -/

/-- A key, with what is between it and its colon. It is not too long to be one, and its line is not one
that begins or ends a document. -/
structure Key where
  word : Inline
  spacing : Spacing
  short : word.chars.length + spacing.chars.length ≤ 1024
  inside : (⟨word.chars ++ (spacing.chars ++ [':']), Mark.origin⟩ : Cursor).atDocumentMarker = false

namespace Key

/-- How a key is written, up to its colon. -/
def chars (k : Key) : List Char :=
  k.word.chars ++ k.spacing.chars

/-- The scalar that a key is. -/
def scalar (k : Key) : Scalar :=
  k.word.scalar

end Key

/-! ## Lines -/

/-- The lines of a mapping. -/
inductive Outline where
  | done
  | filler (f : Filler) (rest : Outline)
  /-- The value stands on the line of its key, and `apart` from the colon. -/
  | entry (key : Key) (apart : Separator) (value : Inline) (trail : Trail) (rest : Outline)
  /-- The lines of `inner` stand `further + 1` columns right of the key. -/
  | group (key : Key) (trail : Trail) (further : Nat) (inner rest : Outline)

/-- Lines as a text: what stands before each but the first is a line end. -/
def joined (ls : List (List Char)) : List Char :=
  ['\n'].intercalate ls

namespace Outline

/-- The lines of a mapping whose keys stand in column `n`. -/
def lines (n : Nat) : Outline → List (List Char)
  | done => []
  | filler f rest => f.line :: rest.lines n
  | entry key apart value trail rest =>
    (List.replicate n ' ' ++
      (key.chars ++ ':' :: (apart.chars ++ (value.chars ++ trail.chars)))) :: rest.lines n
  | group key trail further inner rest =>
    (List.replicate n ' ' ++ (key.chars ++ ':' :: trail.chars)) ::
      (inner.lines (n + 1 + further) ++ rest.lines n)

/-- The lines of a mapping, each behind a line end. -/
def chars (n : Nat) (o : Outline) : List Char :=
  (o.lines n).flatMap ('\n' :: ·)

@[simp] theorem chars_filler (n : Nat) (f : Filler) (rest : Outline) :
    (filler f rest).chars n = '\n' :: (f.line ++ rest.chars n) := rfl

@[simp] theorem chars_entry (n : Nat) (key : Key) (apart : Separator) (value : Inline) (trail : Trail)
    (rest : Outline) : (entry key apart value trail rest).chars n =
      '\n' :: (List.replicate n ' ' ++ (key.chars ++ ':' :: (apart.chars ++ (value.chars ++
        (trail.chars ++ rest.chars n))))) := by
  simp [chars, lines]

@[simp] theorem chars_group (n : Nat) (key : Key) (trail : Trail) (further : Nat)
    (inner rest : Outline) : (group key trail further inner rest).chars n =
      '\n' :: (List.replicate n ' ' ++ (key.chars ++ ':' :: (trail.chars ++
        (inner.chars (n + 1 + further) ++ rest.chars n)))) := by
  simp [chars, lines]

/-- The mapping has an entry, and so it is more than lines without content. -/
def hasEntry : Outline → Bool
  | done => false
  | filler _ rest => rest.hasEntry
  | entry _ _ _ _ _ | group _ _ _ _ _ => true

/-- The token in front of an entry if it is the first one. -/
def opening (isOpen : Bool) : List TokenKind :=
  if isOpen then [] else [.blockMappingStart]

/-- The token behind the last entry, if there is one. -/
def closing (o : Outline) : List TokenKind :=
  if o.hasEntry then [.blockEnd] else []

/-- The tokens of the entries of a mapping; its beginning is among them if it is not open yet. -/
def tokens (isOpen : Bool) : Outline → List TokenKind
  | done => []
  | filler _ rest => rest.tokens isOpen
  | entry key _ value _ rest =>
    opening isOpen ++ [.key, key.scalar.token, .value, value.scalar.token] ++ rest.tokens true
  | group key _ _ inner rest =>
    opening isOpen ++ [.key, key.scalar.token, .value] ++ (inner.tokens false ++ inner.closing) ++
      rest.tokens true

/-- The items of the entries of a mapping. One without entries counts as nothing written. -/
def items : Outline → List Item
  | done => []
  | filler _ rest => rest.items
  | entry key _ value _ rest => .scalar key.scalar :: .scalar value.scalar :: rest.items
  | group key _ _ inner rest =>
    .scalar key.scalar ::
      ((if inner.hasEntry then .mappingStart :: (inner.items ++ [.mappingEnd])
        else [.scalar ⟨none, [], .plain⟩]) ++ rest.items)

/-- The items of a document that consists of a mapping. -/
def document (o : Outline) : List Item :=
  if o.hasEntry then .mappingStart :: (o.items ++ [.mappingEnd]) else [.nothing]

section Tokens

variable {o : Outline}

theorem tokens_of_not_hasEntry (h : o.hasEntry = false) (isOpen : Bool) :
    o.tokens isOpen = [] ∧ o.items = [] := by
  induction o with
  | done => exact ⟨rfl, rfl⟩
  | filler f rest ih => exact ih h
  | entry key apart value trail rest _ => cases h
  | group key trail further inner rest _ _ => cases h

theorem tokens_of_hasEntry (h : o.hasEntry = true) :
    o.tokens false = .blockMappingStart :: o.tokens true := by
  induction o with
  | done => cases h
  | filler f rest ih => exact ih h
  | entry key apart value trail rest _ => rfl
  | group key trail further inner rest _ _ => rfl

/-- The first entry begins with its key. -/
theorem exists_key (h : o.hasEntry = true) :
    ∃ (key : Key) (ks : List TokenKind), o.tokens true = .key :: key.scalar.token :: ks := by
  induction o with
  | done => cases h
  | filler f rest ih => exact ih h
  | entry key apart value trail rest _ => exact ⟨key, _, rfl⟩
  | group key trail further inner rest _ _ => exact ⟨key, _, rfl⟩

/-- Behind a value that is left out stands another key, or what stands behind the entries. -/
theorem exists_stop (o : Outline) {ks : List TokenKind}
    (h : ∃ k ks', ks = k :: ks' ∧ k ∈ Parser.mappingStops) :
    ∃ k ks', o.tokens true ++ ks = k :: ks' ∧ k ∈ Parser.mappingStops := by
  induction o with
  | done => exact h
  | filler f rest ih => exact ih
  | entry key apart value trail rest _ => exact ⟨.key, _, rfl, by decide⟩
  | group key trail further inner rest _ _ => exact ⟨.key, _, rfl, by decide⟩

theorem length_items_le (o : Outline) (isOpen : Bool) :
    o.items.length ≤ (o.tokens isOpen).length := by
  induction o generalizing isOpen with
  | done => exact Nat.le_refl 0
  | filler f rest ih => exact ih isOpen
  | entry key apart value trail rest ih =>
    have := ih true
    simp only [items, tokens, List.length_append, List.length_cons, List.length_nil]
    omega
  | group key trail further inner rest ihinner ihrest =>
    have hinner := ihinner true
    have hrest := ihrest true
    cases hentry : inner.hasEntry with
    | false =>
      simp only [items, tokens, hentry, List.length_append, List.length_cons, List.length_nil,
        Bool.false_eq_true, if_false]
      omega
    | true =>
      simp only [items, tokens, closing, hentry, tokens_of_hasEntry hentry, List.length_append,
        List.length_cons, List.length_nil, if_true]
      omega

end Tokens

end Outline

/-! ## Characters -/

theorem isAllowed_spaces (n : Nat) : ∀ x ∈ List.replicate n ' ', Document.isAllowed x = true := by
  intro x hx
  rw [List.eq_of_mem_replicate hx]
  decide

theorem Filler.isAllowed (f : Filler) : ∀ x ∈ f.line, Document.isAllowed x = true :=
  List.forall_mem_append.2 ⟨isAllowed_spaces f.indent, isAllowed_comment f.fits⟩

theorem Key.isAllowed (k : Key) : ∀ x ∈ k.chars, Document.isAllowed x = true :=
  List.forall_mem_append.2 ⟨k.word.isAllowed, k.spacing.isAllowed⟩

/-- An outline is written in characters that a text may hold. -/
theorem Outline.isAllowed (o : Outline) (n : Nat) :
    ∀ l ∈ o.lines n, ∀ x ∈ l, Document.isAllowed x = true := by
  induction o generalizing n with
  | done => exact fun l hl => absurd hl List.not_mem_nil
  | filler f rest ih => exact List.forall_mem_cons.2 ⟨f.isAllowed, ih n⟩
  | entry key apart value trail rest ih =>
    refine List.forall_mem_cons.2 ⟨?_, ih n⟩
    simp only [List.forall_mem_append, List.forall_mem_cons]
    exact ⟨isAllowed_spaces n, key.isAllowed, by decide, apart.isAllowed, value.isAllowed,
      trail.isAllowed⟩
  | group key trail further inner rest ihinner ihrest =>
    refine List.forall_mem_cons.2 ⟨?_, List.forall_mem_append.2 ⟨ihinner _, ihrest n⟩⟩
    simp only [List.forall_mem_append, List.forall_mem_cons]
    exact ⟨isAllowed_spaces n, key.isAllowed, by decide, trail.isAllowed⟩

theorem cons_joined {ls : List (List Char)} (h : ls ≠ []) :
    '\n' :: joined ls = ls.flatMap ('\n' :: ·) := by
  induction ls with
  | nil => exact absurd rfl h
  | cons l ls ih =>
    cases ls with
    | nil => simp [joined]
    | cons l' ls =>
      have hrest := ih (List.cons_ne_nil l' ls)
      rw [List.flatMap_cons, ← hrest]
      simp [joined, List.intercalate]

/-- A blank line at the end is another line end. -/
theorem joined_append_blank (ls : List (List Char)) :
    joined (ls ++ [[]]) = ls.flatMap (· ++ ['\n']) := by
  induction ls with
  | nil => rfl
  | cons l ls ih =>
    have hne : ls ++ [[]] ≠ [] := List.append_ne_nil_of_right_ne_nil ls (List.cons_ne_nil _ _)
    obtain ⟨l', ls', hls⟩ := List.exists_cons_of_ne_nil hne
    rw [List.flatMap_cons, ← ih, List.cons_append, hls]
    simp [joined, List.intercalate]

theorem mem_joined {ls : List (List Char)} {x : Char} (h : x ∈ joined ls) :
    x = '\n' ∨ ∃ l ∈ ls, x ∈ l := by
  cases ls with
  | nil => exact absurd h List.not_mem_nil
  | cons l ls =>
    have hx : x ∈ (l :: ls).flatMap ('\n' :: ·) :=
      cons_joined (List.cons_ne_nil l ls) ▸ List.mem_cons_of_mem '\n' h
    obtain ⟨l', hl', hx⟩ := List.mem_flatMap.1 hx
    exact (List.mem_cons.1 hx).imp_right fun hx => ⟨l', hl', hx⟩

/-! ## Lines put in -/

/-- The second lines are the first ones with lines without content put in before, between and behind
them. -/
inductive Inserts : List (List Char) → List (List Char) → Prop
  | nil : Inserts [] []
  | keep {ls ls' : List (List Char)} (l : List Char) : Inserts ls ls' → Inserts (l :: ls) (l :: ls')
  | filler {ls ls' : List (List Char)} (f : Filler) : Inserts ls ls' → Inserts ls (f.line :: ls')

namespace Inserts

variable {l : List Char} {ls ms ls' : List (List Char)}

theorem refl (ls : List (List Char)) : Inserts ls ls := by
  induction ls with
  | nil => exact .nil
  | cons l ls ih => exact .keep l ih

theorem eq_of_nil (h : Inserts [] ls') : ∃ fs : List Filler, ls' = fs.map Filler.line := by
  generalize hnil : ([] : List (List Char)) = ls at h
  induction h with
  | nil => exact ⟨[], rfl⟩
  | keep l _ _ => cases hnil
  | filler f _ ih =>
    obtain ⟨fs, rfl⟩ := ih hnil
    exact ⟨f :: fs, rfl⟩

/-- The first line is still there, behind what is put in before it. -/
theorem eq_of_cons (h : Inserts (l :: ls) ls') :
    ∃ (fs : List Filler) (rest : List (List Char)),
      ls' = fs.map Filler.line ++ l :: rest ∧ Inserts ls rest := by
  generalize hcons : l :: ls = ms at h
  induction h with
  | nil => cases hcons
  | keep l' hrest _ =>
    cases hcons
    exact ⟨[], _, rfl, hrest⟩
  | filler f _ ih =>
    obtain ⟨fs, rest, rfl, hrest⟩ := ih hcons
    exact ⟨f :: fs, rest, rfl, hrest⟩

/-- A blank line can be put in at the end. -/
theorem append_blank (ls : List (List Char)) : Inserts ls (ls ++ [[]]) := by
  induction ls with
  | nil => exact .filler ⟨0, none, rfl⟩ .nil
  | cons l ls ih => exact .keep l ih

theorem behind (fs : List Filler) (h : Inserts ls ls') : Inserts ls (fs.map Filler.line ++ ls') := by
  induction fs with
  | nil => exact h
  | cons f fs ih => exact .filler f ih

/-- What is put in stands among the lines in front of a place or among those behind it. -/
theorem eq_append (h : Inserts (ls ++ ms) ls') :
    ∃ as bs, ls' = as ++ bs ∧ Inserts ls as ∧ Inserts ms bs := by
  induction ls generalizing ls' with
  | nil => exact ⟨[], ls', rfl, .nil, h⟩
  | cons l ls ih =>
    obtain ⟨fs, rest, rfl, hrest⟩ := eq_of_cons h
    obtain ⟨as, bs, rfl, has, hbs⟩ := ih hrest
    exact ⟨fs.map Filler.line ++ l :: as, bs, by simp, (Inserts.keep l has).behind fs, hbs⟩

end Inserts

namespace Outline

/-- An outline behind lines without content. -/
def behind (fs : List Filler) (o : Outline) : Outline :=
  fs.foldr filler o

section Behind

variable {n : Nat} {fs : List Filler} {o : Outline}

theorem lines_behind : (o.behind fs).lines n = fs.map Filler.line ++ o.lines n := by
  induction fs with
  | nil => rfl
  | cons f fs ih => exact congrArg (f.line :: ·) ih

theorem items_behind : (o.behind fs).items = o.items := by
  induction fs with
  | nil => rfl
  | cons f fs ih => exact ih

theorem hasEntry_behind : (o.behind fs).hasEntry = o.hasEntry := by
  induction fs with
  | nil => rfl
  | cons f fs ih => exact ih

end Behind

/-- With lines without content put in, an outline is one with the same items. -/
theorem exists_of_inserts (o : Outline) {n : Nat} {ls : List (List Char)} (h : Inserts (o.lines n) ls) :
    ∃ o' : Outline, o'.lines n = ls ∧ o'.items = o.items ∧ o'.hasEntry = o.hasEntry := by
  induction o generalizing n ls with
  | done =>
    obtain ⟨fs, rfl⟩ := h.eq_of_nil
    exact ⟨done.behind fs, by rw [lines_behind, lines, List.append_nil], items_behind, hasEntry_behind⟩
  | filler f rest ih =>
    obtain ⟨fs, ls, rfl, hrest⟩ := h.eq_of_cons
    obtain ⟨o, rfl, hitems, hentry⟩ := ih hrest
    exact ⟨(filler f o).behind fs, lines_behind, items_behind.trans hitems,
      hasEntry_behind.trans hentry⟩
  | entry key apart value trail rest ih =>
    obtain ⟨fs, ls, rfl, hrest⟩ := h.eq_of_cons
    obtain ⟨o, rfl, hitems, -⟩ := ih hrest
    refine ⟨(entry key apart value trail o).behind fs, lines_behind, ?_, hasEntry_behind⟩
    rw [items_behind, items, hitems]
    rfl
  | group key trail further inner rest ihinner ihrest =>
    obtain ⟨fs, ls, rfl, hboth⟩ := h.eq_of_cons
    obtain ⟨as, bs, rfl, has, hbs⟩ := hboth.eq_append
    obtain ⟨i, rfl, hitems, hentry⟩ := ihinner has
    obtain ⟨o, rfl, hitems', -⟩ := ihrest hbs
    refine ⟨(group key trail further i o).behind fs, lines_behind, ?_, hasEntry_behind⟩
    rw [items_behind, items, hitems, hentry, hitems']
    rfl

end Outline

/-! ## Blocks -/

section Names

variable {cs r : List Char} {m : Mark}

/-- A word of letters, numbers and underscores is no line that begins or ends a document. -/
theorem atDocumentMarker_of_isNameChar {x : Char} (hx : isNameChar x = true) :
    (⟨x :: r, m⟩ : Cursor).atDocumentMarker = false := by
  have hminus : (x == '-') = false := beq_eq_false_iff_ne.2 (ne_of_isNameChar hx (by decide))
  have hdot : (x == '.') = false := beq_eq_false_iff_ne.2 (ne_of_isNameChar hx (by decide))
  simp [Cursor.atDocumentMarker, Cursor.atMarker, Cursor.sees, Cursor.ahead, hminus, hdot]

end Names

/-- A name is a key, with its colon right behind it. -/
def Name.key (k : Name) : Key where
  word := .plain k.text.toList k.isBare.isPlain
  spacing := .none
  short := k.length_le
  inside := by
    obtain ⟨x, w, hw⟩ := List.exists_cons_of_ne_nil k.ne_nil
    have hx : isNameChar x = true := k.all_isNameChar x (hw ▸ List.mem_cons_self)
    simp only [Inline.chars, hw]
    exact atDocumentMarker_of_isNameChar hx

/-- A character that stands for itself between double quotes. -/
def Piece.ofQuotable (x : Char) (h : isQuotable x = true) : Piece false where
  chars := [x]
  reads := x
  fits := by
    have hprintable := isPrintable_of_isQuotable h
    simp only [isQuotable, Bool.and_eq_true, bne_iff_ne] at h
    exact .char (isAllowed_of_isPrintable hprintable) (isBreak_of_isPrintable hprintable) h.1.2
      fun _ => h.2

/-- How a value is written. -/
def Leaf.inline : Leaf → Inline
  | text t => .quoted false (t.text.toList.attach.map fun x =>
      .ofQuotable x.1 (List.all_eq_true.1 t.fits x.1 x.2))
  | number n => .plain (toString n).toList (isBare_toString n).isPlain
  | truth b => .plain (toString b).toList (isBare_truth b).isPlain

theorem Leaf.chars_inline (v : Leaf) : v.inline.chars = v.chars := by
  cases v with
  | text t =>
    simp only [inline, Inline.chars, Leaf.chars, List.flatMap_map, Piece.ofQuotable]
    simp [Cursor.quoteMark]
  | number n => rfl
  | truth b => rfl

theorem Leaf.scalar_inline (v : Leaf) : v.inline.scalar = v.scalar := by
  cases v with
  | text t => simp [inline, Inline.scalar, Leaf.scalar, Piece.ofQuotable]
  | number n => rfl
  | truth b => rfl

namespace Block

/-- The outline of a block. -/
def outline : Block → Outline
  | done => .done
  | filler f rest => .filler f rest.outline
  | line key value rest => .entry key.key .space value.inline .none rest.outline
  | group key further inner rest => .group key.key .none further inner.outline rest.outline

theorem chars_eq (b : Block) (n : Nat) : b.chars n = (b.outline.lines n).flatMap (· ++ ['\n']) := by
  induction b generalizing n with
  | done => rfl
  | filler f rest ih =>
    rw [chars, ih]
    rfl
  | line key value rest ih =>
    rw [chars, ih, outline, Outline.lines, List.flatMap_cons, Leaf.chars_inline]
    simp [Key.chars, Name.key, Inline.chars]
  | group key further inner rest ihinner ihrest =>
    rw [chars, ihinner, ihrest, outline, Outline.lines, List.flatMap_cons]
    simp [Key.chars, Name.key, Inline.chars]

theorem hasEntry_outline (b : Block) : b.outline.hasEntry = b.hasEntry := by
  induction b with
  | done => rfl
  | filler f rest ih => exact ih
  | line key value rest _ => rfl
  | group key further inner rest _ _ => rfl

theorem items_outline (b : Block) : b.outline.items = b.items := by
  induction b with
  | done => rfl
  | filler f rest ih => exact ih
  | line key value rest ih =>
    rw [outline, Outline.items, ih, Leaf.scalar_inline]
    rfl
  | group key further inner rest ihinner ihrest =>
    rw [outline, Outline.items, ihinner, ihrest, hasEntry_outline]
    rfl

/-- The items of a document that consists of a block. -/
def document (b : Block) : List Item :=
  if b.hasEntry then .mappingStart :: (b.items ++ [.mappingEnd]) else [.nothing]

/-- A block is written as the lines of an outline, the last of which is blank. -/
theorem exists_lines (b : Block) :
    ∃ o : Outline, b.chars 0 = joined (o.lines 0) ∧ o.document = b.document := by
  obtain ⟨o, hlines, hitems, hentry⟩ := b.outline.exists_of_inserts
    (Inserts.append_blank (b.outline.lines 0))
  refine ⟨o, ?_, ?_⟩
  · rw [hlines, chars_eq, joined_append_blank]
  · rw [Outline.document, hitems, hentry, items_outline, hasEntry_outline]
    rfl

end Block

end Cutout.Yaml
