import Cutout.Text.Blank
import Cutout.Text.WordTable
import Cutout.Yaml.Document

/-!
# Block mappings as they are written

A tree of keys, one-line values and nested mappings (`Block`), and the text that writes it line by
line: keys are bare words, texts stand in double quotes, a nested mapping stands further right than its
key by any amount, and lines with nothing but spaces or a comment can stand anywhere. Beside the text
are the items that a reader should find in it. What can be written is a matter of the types, so that
whatever a tree holds can be read back.
-/

namespace Cutout.Yaml

/-! ## Characters -/

/-- A letter, a number or an underscore. -/
def isNameChar (c : Char) : Bool :=
  Text.isWordChar c || c == '_'

/-- A printable character of ASCII, the space included. -/
def isPrintable (c : Char) : Bool :=
  0x20 ≤ c.toNat && c.toNat ≤ 0x7E

/-- A printable character that stands for itself between double quotes. -/
def isQuotable (c : Char) : Bool :=
  isPrintable c && c != '"' && c != '\\'

/-- The white space of a text, and the characters of ASCII that mean something in it. -/
def specialChars : List Char :=
  [' ', '\t', '\r', '\n', '\u0085', '\u2028', '\u2029', '\ufeff', '%', '.', '-', '?', ':', ',', '[', ']',
   '\x7b', '\x7d', '#', '&', '*', '!', '|', '>', '\'', '"', '@', '`']

/-- Code points that are no letters and no numbers, besides some beyond them. -/
def gapRanges : List (Nat × Nat) :=
  [(0x00, 0x2F), (0x3A, 0x40), (0x5B, 0x60), (0x7B, 0xA0), (0x1680, 0x1680), (0x2000, 0x200A),
   (0x2028, 0x2029), (0x202F, 0x202F), (0x205F, 0x205F), (0x3000, 0x3000), (0xFEFF, 0xFEFF),
   (0xFFFE, 0xFFFF)]

theorem wordRanges_avoid_gapRanges :
    Text.wordRanges.all (fun r => gapRanges.all fun g => r.2 < g.1 || g.2 < r.1) = true := by
  decide +kernel

section Characters

variable {c x : Char}

/-- A letter, a number or an underscore is in none of the gaps, save that the underscore is in one. -/
theorem not_mem_gapRanges (h : isNameChar c = true) :
    c = '_' ∨ ∀ g ∈ gapRanges, c.toNat < g.1 ∨ g.2 < c.toNat := by
  rcases Bool.or_eq_true _ _ ▸ h with hword | hline
  · right
    intro g hg
    obtain ⟨r, hr, hin⟩ := List.any_eq_true.1 hword
    have havoid := List.all_eq_true.1 (List.all_eq_true.1 wordRanges_avoid_gapRanges r hr) g hg
    simp only [Bool.and_eq_true, Bool.or_eq_true, decide_eq_true_eq] at hin havoid
    omega
  · exact .inl (beq_iff_eq.1 hline)

theorem isBlank_of_isNameChar (h : isNameChar c = true) : Text.isBlank c = false := by
  rcases not_mem_gapRanges h with rfl | hgaps
  · decide
  · simp only [gapRanges, List.forall_mem_cons, List.not_mem_nil, false_implies, implies_true,
      and_true] at hgaps
    simp only [Text.isBlank, Bool.or_eq_false_iff, Bool.and_eq_false_iff, decide_eq_false_iff_not,
      beq_eq_false_iff_ne]
    omega

theorem isAllowed_of_isNameChar (h : isNameChar c = true) : Document.isAllowed c = true := by
  rcases not_mem_gapRanges h with rfl | hgaps
  · decide
  · simp only [gapRanges, List.forall_mem_cons, List.not_mem_nil, false_implies, implies_true,
      and_true] at hgaps
    have hvalid : c.toNat < 0xD800 ∨ (0xDFFF < c.toNat ∧ c.toNat < 0x110000) := c.valid
    simp only [Document.isAllowed, Bool.or_eq_true, Bool.and_eq_true, decide_eq_true_eq,
      beq_iff_eq, bne_iff_ne]
    omega

theorem isAllowed_of_isPrintable (h : isPrintable c = true) : Document.isAllowed c = true := by
  simp only [isPrintable, Bool.and_eq_true, decide_eq_true_eq] at h
  simp only [Document.isAllowed, Bool.or_eq_true, Bool.and_eq_true, decide_eq_true_eq, beq_iff_eq,
    bne_iff_ne]
  omega

theorem isNameChar_specialChars : specialChars.any isNameChar = false := by
  decide +kernel

theorem ne_of_isNameChar (h : isNameChar c = true) (hx : x ∈ specialChars) : c ≠ x := by
  rintro rfl
  exact Bool.eq_false_iff.1 isNameChar_specialChars (List.any_eq_true.2 ⟨c, hx, h⟩)

theorem isSpace_of_isNameChar (h : isNameChar c = true) : isSpace c = false := by
  simp only [isSpace, Bool.or_eq_false_iff, beq_eq_false_iff_ne]
  exact ⟨ne_of_isNameChar h (by decide), ne_of_isNameChar h (by decide)⟩

theorem isBreak_of_isNameChar (h : isNameChar c = true) : isBreak c = false := by
  simp only [isBreak, Bool.or_eq_false_iff, beq_eq_false_iff_ne]
  refine ⟨⟨⟨⟨?_, ?_⟩, ?_⟩, ?_⟩, ?_⟩ <;> exact ne_of_isNameChar h (by decide)

theorem isBreak_of_isPrintable (h : isPrintable c = true) : isBreak c = false := by
  simp only [isPrintable, Bool.and_eq_true, decide_eq_true_eq] at h
  simp only [isBreak, Bool.or_eq_false_iff, beq_eq_false_iff_ne]
  refine ⟨⟨⟨⟨?_, ?_⟩, ?_⟩, ?_⟩, ?_⟩ <;> (rintro rfl; revert h; decide)

theorem isPrintable_of_isQuotable (h : isQuotable c = true) : isPrintable c = true := by
  simp only [isQuotable, Bool.and_eq_true] at h
  exact h.1.1

end Characters

/-! ## Names, texts and values -/

/-- The text is a bare word that can be a key: a word that is longer is not read as one. -/
def isName (s : String) : Bool :=
  !s.toList.isEmpty && s.toList.all isNameChar && s.toList.length ≤ 1024

/-- A key. -/
structure Name where
  text : String
  fits : isName text = true
  deriving DecidableEq

theorem Name.ne_nil (k : Name) : k.text.toList ≠ [] := by
  have h := k.fits
  simp only [isName, Bool.and_eq_true] at h
  simpa using h.1.1

theorem Name.all_isNameChar (k : Name) : ∀ c ∈ k.text.toList, isNameChar c = true := by
  have h := k.fits
  simp only [isName, Bool.and_eq_true] at h
  exact List.all_eq_true.1 h.1.2

theorem Name.length_le (k : Name) : k.text.toList.length ≤ 1024 := by
  have h := k.fits
  simp only [isName, Bool.and_eq_true, decide_eq_true_eq] at h
  exact h.2

/-- Letters, numbers and underscores, perhaps behind a minus sign. -/
def IsBare (w : List Char) : Prop :=
  ∃ v, (w = v ∨ w = '-' :: v) ∧ v ≠ [] ∧ ∀ x ∈ v, isNameChar x = true

theorem IsBare.ne_nil {w : List Char} (h : IsBare w) : w ≠ [] := by
  obtain ⟨v, rfl | rfl, hv, -⟩ := h
  · exact hv
  · exact List.cons_ne_nil _ _

theorem Name.isBare (k : Name) : IsBare k.text.toList :=
  ⟨_, .inl rfl, k.ne_nil, k.all_isNameChar⟩

theorem isBare_truth (b : Bool) : IsBare (toString b).toList := by
  cases b <;> exact ⟨_, .inl rfl, by decide, List.all_eq_true.1 (by decide +kernel)⟩

/-- A text that can stand between double quotes as it is. -/
structure Quotable where
  text : String
  fits : text.toList.all isQuotable = true
  deriving DecidableEq

/-- A value that is written on the line of its key. -/
inductive Leaf where
  | text (t : Quotable)
  | number (n : Int)
  | truth (b : Bool)
  deriving DecidableEq

/-- How a value is written. -/
def Leaf.chars : Leaf → List Char
  | text t => '"' :: t.text.toList ++ ['"']
  | number n => (toString n).toList
  | truth b => (toString b).toList

/-- The scalar that a value is. -/
def Leaf.scalar : Leaf → Scalar
  | text t => ⟨none, t.text.toList, .doubleQuoted⟩
  | number n => ⟨none, (toString n).toList, .plain⟩
  | truth b => ⟨none, (toString b).toList, .plain⟩

/-- The token that a scalar without a tag comes from. -/
def Scalar.token (s : Scalar) : TokenKind :=
  .scalar s.text s.style

/-- The scalar that a key is. -/
def Name.scalar (k : Name) : Scalar :=
  ⟨none, k.text.toList, .plain⟩

/-- A line without content: spaces, and perhaps a comment. -/
structure Filler where
  indent : Nat
  comment : Option String
  fits : comment.all (·.toList.all isPrintable) = true
  deriving DecidableEq

/-- How a line without content is written, with its end. -/
def Filler.chars (f : Filler) : List Char :=
  List.replicate f.indent ' ' ++ f.comment.elim [] (fun c => '#' :: c.toList) ++ ['\n']

/-- How a line without content is written. -/
def Filler.line (f : Filler) : List Char :=
  List.replicate f.indent ' ' ++ f.comment.elim [] (fun c => '#' :: c.toList)

theorem Filler.chars_eq (f : Filler) : f.chars = f.line ++ ['\n'] := rfl

/-! ## Blocks -/

/-- The lines of a mapping. -/
inductive Block where
  | done
  | filler (f : Filler) (rest : Block)
  | line (key : Name) (value : Leaf) (rest : Block)
  /-- The lines of `inner` stand `further + 1` columns right of the key. -/
  | group (key : Name) (further : Nat) (inner rest : Block)

namespace Block

/-- How a mapping is written whose keys stand in column `n`. -/
def chars (n : Nat) : Block → List Char
  | done => []
  | filler f rest => f.chars ++ rest.chars n
  | line key value rest =>
    List.replicate n ' ' ++ (key.text.toList ++ ':' :: ' ' :: (value.chars ++ '\n' :: rest.chars n))
  | group key further inner rest =>
    List.replicate n ' ' ++
      (key.text.toList ++ ':' :: '\n' :: (inner.chars (n + 1 + further) ++ rest.chars n))

/-- The mapping has an entry, and so it is more than lines without content. -/
def hasEntry : Block → Bool
  | done => false
  | filler _ rest => rest.hasEntry
  | line _ _ _ | group _ _ _ _ => true

/-- The items of the entries of a mapping. One without entries counts as nothing written. -/
def items : Block → List Item
  | done => []
  | filler _ rest => rest.items
  | line key value rest => .scalar key.scalar :: .scalar value.scalar :: rest.items
  | group key _ inner rest =>
    .scalar key.scalar ::
      ((if inner.hasEntry then .mappingStart :: (inner.items ++ [.mappingEnd])
        else [.scalar ⟨none, [], .plain⟩]) ++ rest.items)

end Block

end Cutout.Yaml
