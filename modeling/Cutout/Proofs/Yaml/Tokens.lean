import Cutout.Proofs.Yaml.Scan

/-!
# The tokens of a written mapping

Scanning the lines of an outline gives the tokens of the outline (`Scanner.scan_lines`). The proof goes by
induction on the outline: what a scanner has read between two entries is described by the open blocks and
the tokens once everything further right is closed (`Scanner.Holds`), and every entry takes the scanner
from one such place to the next.
-/

namespace Cutout.Yaml

/-! ## Where the lines of an outline lead to -/

section Lead

variable {n : Nat} {r text : List Char}

/-- A key means something from its first character on. -/
theorem Key.exists_head (k : Key) : ∃ x w, k.word.chars = x :: w ∧ (k.chars ++ r).head? = some x ∧
    x ≠ '\t' ∧ lead false n (k.chars ++ r) = (n, k.chars ++ r) := by
  obtain ⟨x, w, hw, hspace, hbreak, hhash⟩ := k.word.exists_head
  simp only [isSpace, Bool.or_eq_false_iff, beq_eq_false_iff_ne] at hspace
  refine ⟨x, w, hw, by rw [chars, hw]; rfl, hspace.2, ?_⟩
  rw [chars, hw]
  exact lead_here hbreak hspace.1 hhash

theorem Key.lead_line (k : Key) :
    lead false 0 ('\n' :: (List.replicate n ' ' ++ (k.chars ++ r))) = (n, k.chars ++ r) := by
  obtain ⟨x, w, -, -, -, hlead⟩ := k.exists_head (r := r) (n := n)
  rw [lead_break (by decide), lead_spaces, Nat.zero_add, hlead]

theorem Key.leadsWithin (k : Key) :
    LeadsWithin n ('\n' :: (List.replicate n ' ' ++ (k.chars ++ r))) := by
  obtain ⟨x, w, -, hhead, htab, -⟩ := k.exists_head (r := r) (n := n)
  rw [LeadsWithin, k.lead_line, hhead]
  exact ⟨Nat.le_refl n, fun heq => htab (Option.some.inj heq)⟩

theorem LeadsWithin.mono {m : Nat} (h : LeadsWithin n r) (hle : n ≤ m) : LeadsWithin m r :=
  ⟨Nat.le_trans h.1 hle, h.2⟩

theorem Outline.isOver (o : Outline) (n : Nat) (h : IsOver text) : IsOver (o.chars n ++ text) := by
  cases o with
  | done => exact h
  | _ => simpa using .line _

/-- A line without content leads to what the lines behind it lead to. -/
theorem Filler.lead_newline (f : Filler) (h : IsOver text) :
    lead false 0 ('\n' :: (f.line ++ text)) = lead false 0 text := by
  rw [lead_break (by decide), f.lead_line h]

/-- The lines of an outline lead to one of its keys, or to what the lines behind it lead to. -/
theorem Outline.leadsWithin (o : Outline) (htext : IsOver text) (h : LeadsWithin n text) :
    LeadsWithin n (o.chars n ++ text) := by
  induction o with
  | done => exact h
  | filler f rest ih =>
    simp only [chars_filler, List.cons_append, List.append_assoc]
    rw [LeadsWithin, f.lead_newline (rest.isOver n htext)]
    exact ih
  | entry key apart value trail rest _ =>
    simp only [chars_entry, List.cons_append, List.append_assoc]
    exact key.leadsWithin
  | group key trail further inner rest _ _ =>
    simp only [chars_group, List.cons_append, List.append_assoc]
    exact key.leadsWithin

end Lead

namespace Scanner

variable {s t u : Scanner} {n : Nat} {column : Option Nat} {stack : List Nat} {ks : List TokenKind}

/-! ## Runs -/

/-- In `k` steps a scanner becomes another one, and it is not at its end before. -/
def Goes (k : Nat) (s t : Scanner) : Prop :=
  ∀ fuel, s.finish (fuel + k) = t.finish fuel

theorem Goes.trans {a b : Nat} (h : Goes a s t) (h' : Goes b t u) : Goes (a + b) s u := by
  intro fuel
  rw [← h' fuel, ← h (fuel + b), Nat.add_assoc, Nat.add_comm b a]

/-- The last token is the end of the text. -/
def hasEnded (s : Scanner) : Bool :=
  s.reversed.head?.any (·.kind == .streamEnd)

theorem goes_one (h : s.step = .ok t) (hend : t.hasEnded = false) : Goes 1 s t := by
  intro fuel
  have hnot : t.reversed.head?.any (·.kind == .streamEnd) = false := hend
  rw [finish, h]
  simp only [hnot, Bool.and_false, Bool.false_eq_true, if_false]

theorem hasEnded_of_kinds {k : TokenKind} (h : s.kinds = ks ++ [k]) :
    s.hasEnded = (k == .streamEnd) := by
  obtain ⟨cursor, reversed, count, indents, allowed, key, outer⟩ := s
  cases reversed with
  | nil => simp [kinds] at h
  | cons t ts =>
    simp only [kinds, List.reverse_cons, List.map_append, List.map_cons, List.map_nil] at h
    obtain rfl : t.kind = k := List.append_inj_right' h rfl |> List.head_eq_of_cons_eq
    rfl

/-! ## Closing further -/

theorem dropWhile_dropWhile_of_imp {α : Type} {p q : α → Bool} (h : ∀ a, p a = true → q a = true)
    (l : List α) : (l.dropWhile p).dropWhile q = l.dropWhile q ∧
      l.takeWhile p ++ (l.dropWhile p).takeWhile q = l.takeWhile q := by
  induction l with
  | nil => exact ⟨rfl, rfl⟩
  | cons a l ih =>
    cases hp : p a with
    | false => simp [hp]
    | true => simpa [hp, h a hp] using ih

/-- What is closed at a column is also closed at one further left. -/
theorem Holds.lower (h : s.Holds column stack ks) (column' : Option Nat)
    (himp : ∀ i, rightOf column i = true → rightOf column' i = true) :
    s.Holds column' (stack.dropWhile (rightOf column'))
      (ks ++ (stack.takeWhile (rightOf column')).map fun _ => .blockEnd) := by
  obtain ⟨hdrop, htake⟩ := dropWhile_dropWhile_of_imp himp s.indents
  refine ⟨by rw [← hdrop, h.1], ?_⟩
  rw [← htake, ← h.2, List.map_append, h.1, List.append_assoc]

/-! ## Entries -/

theorem Between.congr {text text' : List Char} (h : s.Between text)
    (hlead : lead false 0 text = lead false 0 text') : s.Between text' := by
  obtain ⟨hkey, houter, hcount, hnext⟩ := h
  exact ⟨hkey, houter, hcount, hlead ▸ hnext⟩

/-- The open blocks in front of an entry: its own is among them if it is not the first one. -/
def openAt (n : Nat) (isOpen : Bool) (outer : List Nat) : List Nat :=
  if isOpen then n :: outer else outer

/-- The key of an entry and its colon. -/
theorem goes_key {k : Key} {r : List Char} {isOpen : Bool} {outer : List Nat} (hr : gapAt r = true)
    (houter : ∀ i ∈ outer.head?, i < n)
    (hs : s.Between ('\n' :: (List.replicate n ' ' ++ (k.chars ++ ':' :: r))))
    (hholds : s.Holds (some n) (openAt n isOpen outer) ks) :
    ∃ m reversed, Goes 2 s (quiet false r m reversed (n :: outer)) ∧ n < m.column ∧
      reversed.reverse.map (·.kind) =
        ks ++ (Outline.opening isOpen ++ [.key, k.scalar.token, .value]) := by
  obtain ⟨x, w, hw, hhead, -, -⟩ := k.exists_head (r := ':' :: r) (n := n)
  obtain ⟨m, reversed, rfl, hkinds, hstep⟩ := hs.step_eq k.lead_line hhead hholds
  have hstack : ∀ i ∈ (openAt m.column isOpen outer).head?, i ≤ m.column := by
    intro i hi
    cases isOpen with
    | true => exact Nat.le_of_eq (Option.some.inj hi).symm
    | false => exact Nat.le_of_lt (houter i hi)
  obtain ⟨a, gap, hab, htoken⟩ := exists_tokenAt k reversed hw hr hstack
  have hshort : a + gap.chars.length ≤ 1024 := hab ▸ k.short
  rw [htoken, Except.bind, refresh_atColon (t := ⟨k.scalar.token, m, m.right k.word.chars.length⟩)
    (Nat.le_trans (Nat.le_add_right a gap.chars.length) hshort)] at hstep
  obtain ⟨m', reversed', hcolon, hcolumn, hkinds'⟩ := step_atColon
    ⟨k.scalar.token, m, m.right k.word.chars.length⟩ reversed
    ((openAt m.column isOpen outer).head? == some m.column) isOpen gap hr hshort houter rfl
  have hlast : (quiet false r m' reversed' (m.column :: outer)).kinds =
      reversed.reverse.map (·.kind) ++ (Outline.opening isOpen ++ [.key, k.scalar.token]) ++ [.value] := by
    rw [kinds, quiet, hkinds']
    simp
  exact ⟨m', reversed', (goes_one hstep rfl).trans (goes_one hcolon (hasEnded_of_kinds hlast)), hcolumn,
    hkinds ▸ hkinds'⟩

/-- Nothing is closed where the innermost open block is not further right. -/
theorem holds_of_le (h : ∀ i ∈ s.indents.head?, i ≤ n) : s.Holds (some n) s.indents s.kinds := by
  have hstay : s.indents.dropWhile (rightOf (some n)) = s.indents ∧
      s.indents.takeWhile (rightOf (some n)) = [] := by
    cases hl : s.indents with
    | nil => exact ⟨rfl, rfl⟩
    | cons i l =>
      have hi : rightOf (some n) i = false := by
        rw [rightOf_some, decide_eq_false_iff_not, Nat.not_lt]
        exact h i (by simp [hl])
      simp [hi]
  exact ⟨hstay.1, by rw [hstay.2]; simp⟩

/-- Behind a nested mapping the blocks around it are open, and its end is among the tokens. -/
theorem Holds.leave {further : Nat} {outer : List Nat} {inner : Outline}
    (h : s.Holds (some (n + 1 + further)) (openAt (n + 1 + further) inner.hasEntry (n :: outer)) ks) :
    s.Holds (some n) (n :: outer) (ks ++ inner.closing) := by
  have hlow := h.lower (some n) fun i hi => by
    rw [rightOf_some, decide_eq_true_eq] at hi ⊢
    omega
  have hstay : rightOf (some n) n = false := by simp [rightOf_some]
  have hgo : rightOf (some n) (n + 1 + further) = true := by
    rw [rightOf_some, decide_eq_true_eq]
    omega
  cases hentry : inner.hasEntry with
  | true => simpa [openAt, Outline.closing, hentry, hstay, hgo] using hlow
  | false => simpa [openAt, Outline.closing, hentry, hstay] using hlow

/-- The lines of an outline take the scanner over its tokens. -/
theorem goes_outline (o : Outline) (isOpen : Bool) (outer : List Nat) {text : List Char}
    (hover : IsOver text) (htext : LeadsWithin n text) (houter : ∀ i ∈ outer.head?, i < n)
    (hs : s.Between (o.chars n ++ text)) (hholds : s.Holds (some n) (openAt n isOpen outer) ks) :
    ∃ k t, k ≤ (o.chars n).length ∧ Goes k s t ∧ t.Between text ∧
      t.Holds (some n) (openAt n (isOpen || o.hasEntry) outer) (ks ++ o.tokens isOpen) := by
  induction o generalizing s n isOpen outer ks text with
  | done =>
    refine ⟨0, s, Nat.le_refl 0, fun _ => rfl, hs, ?_⟩
    simpa [Outline.hasEntry, Outline.tokens] using hholds
  | filler f rest ih =>
    simp only [Outline.chars_filler, List.cons_append, List.append_assoc] at hs
    obtain ⟨k, t, hk, hgoes, hbetween, hheld⟩ := ih isOpen outer hover htext houter
      (hs.congr (f.lead_newline (rest.isOver n hover))) hholds
    refine ⟨k, t, ?_, hgoes, hbetween, hheld⟩
    simp only [Outline.chars_filler, List.length_cons, List.length_append]
    omega
  | entry key apart value trail rest ih =>
    simp only [Outline.chars_entry, List.cons_append, List.append_assoc] at hs
    obtain ⟨m, reversed, hkey, hcolumn, hkinds⟩ := goes_key (apart.gapAt _) houter hs hholds
    obtain ⟨t, hstep, hbetween, hindents, htokens⟩ := step_value value apart.toSpacing trail reversed outer
      hcolumn (rest.isOver n hover) (rest.leadsWithin hover htext)
    have hvalue : Goes 1 _ t := goes_one hstep (hasEnded_of_kinds htokens)
    -- the mapping is open now, whether or not it was before
    have hheld : t.Holds (some n) (openAt n true outer) t.kinds := by
      have h := holds_of_le (s := t) (n := n) (by simp [hindents])
      rwa [hindents] at h
    obtain ⟨k, u, hk, hgoes, hbetween', hheld'⟩ := ih true outer hover htext houter hbetween hheld
    refine ⟨2 + 1 + k, u, ?_, (hkey.trans hvalue).trans hgoes, hbetween', ?_⟩
    · have hpos : 0 < apart.chars.length := List.length_pos_iff.2 apart.ne_nil
      simp only [Outline.chars_entry, List.length_append, List.length_cons]
      omega
    · rw [htokens, hkinds] at hheld'
      simpa [Outline.hasEntry, Outline.tokens] using hheld'
  | group key trail further inner rest ihinner ihrest =>
    simp only [Outline.chars_group, List.cons_append, List.append_assoc] at hs
    have hline : IsOver (inner.chars (n + 1 + further) ++ (rest.chars n ++ text)) :=
      inner.isOver _ (rest.isOver n hover)
    obtain ⟨m, reversed, hkey, hcolumn, hkinds⟩ := goes_key (trail.gapAt hline) houter hs hholds
    have hheld : (quiet false (trail.chars ++ (inner.chars (n + 1 + further) ++ (rest.chars n ++ text))) m
        reversed (n :: outer)).Holds (some (n + 1 + further)) (openAt (n + 1 + further) false (n :: outer))
        (reversed.reverse.map (·.kind)) :=
      holds_of_le (by simp [quiet]; omega)
    obtain ⟨k, t, hk, hgoes, hbetween, hheld⟩ := ihinner false (n :: outer) (rest.isOver n hover)
      ((rest.leadsWithin hover htext).mono (by omega)) (by simp; omega)
      (between_of_reaches (.line trail.toLineEnd hline)) hheld
    rw [Bool.false_or] at hheld
    -- the next entry closes the nested mapping
    obtain ⟨k', u, hk', hgoes', hbetween', hheld'⟩ := ihrest true outer hover htext houter hbetween
      hheld.leave
    refine ⟨2 + k + k', u, ?_, (hkey.trans hgoes).trans hgoes', hbetween', ?_⟩
    · simp only [Outline.chars_group, List.length_append, List.length_cons]
      omega
    · rw [hkinds] at hheld'
      simpa [Outline.hasEntry, Outline.tokens] using hheld'

/-! ## The end -/

/-- Closing blocks leaves everything as it was but the tokens and the open blocks. -/
theorem exists_closeBlocks (column : Option Nat) (houter : s.outerKeys = []) :
    ∃ t, s.closeBlocks column = t ∧ t.cursor = s.cursor ∧ t.key = s.key ∧ t.outerKeys = [] ∧
      t.indents = s.indents.dropWhile (rightOf column) ∧
      t.kinds = s.kinds ++ (s.indents.takeWhile (rightOf column)).map fun _ => .blockEnd := by
  obtain ⟨ts, hts, hkinds⟩ := closeFrom_eq column s s.indents
  refine ⟨s.closeBlocks column, rfl, ?_⟩
  rw [closeBlocks_of_block houter, hts]
  refine ⟨rfl, rfl, houter, rfl, ?_⟩
  rw [← hkinds, kinds, List.reverse_append, List.map_append]
  rfl

/-- At the end of a text all blocks are closed, and one token stands for the end. -/
theorem step_end (hs : s.Between []) (hholds : s.Holds none [] ks) :
    ∃ t, s.step = .ok t ∧ t.cursor.atEnd = true ∧ t.hasEnded = true ∧ t.kinds = ks ++ [.streamEnd] := by
  obtain ⟨m, a, hnext, -⟩ := hs.next
  -- what stands right of the end of the text is closed first
  obtain ⟨u, hu, hcursor, hkey, houter, hindents, hkinds⟩ := exists_closeBlocks (some m.column)
    (s := { s with cursor := ⟨[], m⟩, keyAllowed := a }) hs.outerKeys
  obtain ⟨m', hm'⟩ : ∃ m', (if u.cursor.mark.column = 0 then u.cursor.mark
      else ⟨u.cursor.mark.index, u.cursor.mark.line + 1, 0⟩) = m' := ⟨_, rfl⟩
  obtain ⟨v, hv, hcursor', hkey', -, -, hkinds'⟩ := exists_closeBlocks none
    (s := { u with cursor := ⟨u.cursor.rest, m'⟩ }) houter
  have hall : u.kinds ++ (u.indents.takeWhile (rightOf none)).map (fun _ => .blockEnd) = ks := by
    have hsplit := (dropWhile_dropWhile_of_imp (p := rightOf (some m.column)) (q := rightOf none)
      (fun _ _ => rfl) s.indents).2
    rw [← hholds.2, hkinds, hindents, ← hsplit, List.map_append, List.append_assoc]
    rfl
  have hnone : v.key = none := by
    rw [hkey']
    exact hkey.trans hs.key
  refine ⟨{ v with keyAllowed := false }.pushHere .streamEnd m' m', ?_, ?_, rfl, ?_⟩
  · rw [step_of_next hnext (refresh_of_none hs.key hs.outerKeys)]
    show (closeBlocks { s with cursor := ⟨[], m⟩, keyAllowed := a } (some m.column)).streamEnd = _
    rw [hu]
    simp only [streamEnd, hm', hv, dropKey, hnone, bind, Except.bind, pure, Except.pure]
  · show v.cursor.atEnd = true
    rw [hcursor']
    show u.cursor.rest.isEmpty = true
    rw [hcursor]
    rfl
  · rw [← hall]
    have hkinds'' : v.kinds = u.kinds ++ (u.indents.takeWhile (rightOf none)).map fun _ => .blockEnd :=
      hkinds'
    rw [← hkinds'']
    simp [kinds, pushHere, push]

/-- Scanning the lines of an outline gives the tokens of the outline. -/
theorem scan_lines (o : Outline) (n : Nat) :
    ∃ tokens, scan (joined (o.lines n)) = ⟨tokens, none⟩ ∧
      tokens.map (·.kind) = .streamStart :: (o.tokens false ++ (o.closing ++ [.streamEnd])) := by
  obtain ⟨hstart, hlength⟩ : (Scanner.start (joined (o.lines n))).Between (o.chars n ++ []) ∧
      (o.chars n).length ≤ (joined (o.lines n)).length + 1 := by
    have hbetween := between_start (joined (o.lines n))
    by_cases hnil : o.lines n = []
    · rw [Outline.chars, hnil]
      rw [hnil] at hbetween
      exact ⟨hbetween, Nat.zero_le _⟩
    · rw [Outline.chars, ← cons_joined hnil, List.append_nil]
      exact ⟨hbetween.congr (lead_break (by decide)).symm, Nat.le_refl _⟩
  have hend : LeadsWithin n [] := ⟨Nat.zero_le n, by simp [lead]⟩
  obtain ⟨k, t, hk, hgoes, hbetween, hheld⟩ := goes_outline o false [] .text hend
    (by simp) hstart (holds_of_le (n := n) (by simp [start]))
  -- at the end everything is closed, and not only what stands right of the keys
  have hlow := hheld.lower none fun _ _ => rfl
  have hclosed : t.Holds none [] (.streamStart :: (o.tokens false ++ o.closing)) := by
    cases hentry : o.hasEntry <;>
      simpa [openAt, hentry, Outline.closing, rightOf, kinds, start] using hlow
  obtain ⟨u, hstep, hatEnd, hended, hkinds⟩ := step_end hbetween hclosed
  refine ⟨u.reversed.reverse, ?_, by simpa [kinds] using hkinds⟩
  obtain ⟨fuel, hfuel⟩ : ∃ fuel, (joined (o.lines n)).length + 2 = fuel + 1 + k :=
    ⟨(joined (o.lines n)).length + 1 - k, by omega⟩
  rw [scan, hfuel, hgoes (fuel + 1), finish, hstep]
  simp only [hatEnd, show u.reversed.head?.any (·.kind == .streamEnd) = true from hended, Bool.and_self,
    if_true]

end Scanner

end Cutout.Yaml
