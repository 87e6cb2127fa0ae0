import Cutout.Proofs.Yaml.Outline
import Cutout.Proofs.Yaml.Word

/-!
# Scanning a block mapping

The steps that a scanner takes over one entry: a scalar that may be a key (`Scanner.exists_tokenAt`), the
colon that makes it one (`Scanner.step_atColon`), and a value with the end of its line
(`Scanner.step_value`). Before and after an entry it is `Scanner.Between` two entries, and what it has read
there is told by `Scanner.Holds`: the blocks that are open and the tokens that there are, once the blocks
right of a column have been closed.
-/

namespace Cutout.Yaml

namespace Scanner

variable {s t : Scanner} {n : Nat} {x : Char} {r : List Char} {m : Mark} {stack : List Nat}
  {reversed : List Token}

/-- What the tokens so far are. -/
def kinds (s : Scanner) : List TokenKind :=
  s.reversed.reverse.map (·.kind)

/-! ## Closing -/

/-- A block in column `i` stands right of a column; every block does if there is none. -/
def rightOf (column : Option Nat) (i : Nat) : Bool :=
  !column.any (i ≤ ·)

theorem rightOf_some (n i : Nat) : rightOf (some n) i = decide (n < i) := by
  rw [rightOf, Option.any_some, ← decide_not]
  exact decide_eq_decide.2 Nat.not_le

/-- Of the open blocks, those right of a column are closed with one token each. -/
theorem closeFrom_eq (column : Option Nat) (s : Scanner) (l : List Nat) :
    ∃ ts, s.closeFrom column l =
        { s with indents := l.dropWhile (rightOf column), reversed := ts ++ s.reversed,
                 count := s.count + ts.length } ∧
      ts.reverse.map (·.kind) = (l.takeWhile (rightOf column)).map fun _ => .blockEnd := by
  induction l generalizing s with
  | nil => exact ⟨[], rfl, rfl⟩
  | cons i l ih =>
    cases hi : column.any (i ≤ ·) with
    | true => exact ⟨[], by simp [closeFrom, rightOf, hi], by simp [rightOf, hi]⟩
    | false =>
      obtain ⟨ts, hts, hkinds⟩ := ih (s.pushHere .blockEnd s.cursor.mark s.cursor.mark)
      refine ⟨ts ++ [⟨.blockEnd, s.cursor.mark, s.cursor.mark⟩], ?_, ?_⟩
      · rw [closeFrom, hi, if_neg Bool.false_ne_true, hts]
        simp [rightOf, hi, pushHere, push, Nat.add_left_comm, Nat.add_comm]
      · simpa [rightOf, hi] using hkinds

theorem closeBlocks_of_block {column : Option Nat} (houter : s.outerKeys = []) :
    s.closeBlocks column = s.closeFrom column s.indents := by
  simp [closeBlocks, inFlow, houter]

/-! ## Between entries -/

/-- A scanner between two entries, where `text` follows. It gets to what the text leads to, and unless
that is the end of the text, it is told the column and a key is allowed there. -/
structure Between (s : Scanner) (text : List Char) : Prop where
  key : s.key = none
  outerKeys : s.outerKeys = []
  count : s.count = s.reversed.length
  next : ∃ m a, s.toNextToken (s.cursor.rest.length + 1) =
      { s with cursor := ⟨(lead false 0 text).2, m⟩, keyAllowed := a } ∧
    ((lead false 0 text).2 ≠ [] → m.column = (lead false 0 text).1 ∧ a = true)

/-- Once the blocks right of a column are closed, `stack` are the open ones and `kinds` the tokens. -/
def Holds (s : Scanner) (column : Option Nat) (stack : List Nat) (kinds : List TokenKind) : Prop :=
  s.indents.dropWhile (rightOf column) = stack ∧
    s.kinds ++ (s.indents.takeWhile (rightOf column)).map (fun _ => .blockEnd) = kinds

/-- A scanner in a block where nothing could become a key. -/
def quiet (allowed : Bool) (rest : List Char) (m : Mark) (reversed : List Token) (stack : List Nat) :
    Scanner :=
  ⟨⟨rest, m⟩, reversed, reversed.length, stack, allowed, none, []⟩

/-- Nothing that could become a key is dropped where there is nothing. -/
theorem refresh_of_none (hkey : s.key = none) (houter : s.outerKeys = []) : s.refresh = .ok s := by
  obtain ⟨cursor, reversed, count, indents, allowed, key, outer⟩ := s
  obtain rfl := hkey
  obtain rfl := houter
  rfl

/-- A step, once it is known where it leads to. -/
theorem step_of_next (hnext : s.toNextToken (s.cursor.rest.length + 1) = t)
    (hfresh : t.refresh = .ok t) :
    s.step =
      match t.cursor.peek with
      | none => (t.closeBlocks (some t.cursor.mark.column)).streamEnd
      | some x => ((t.closeBlocks (some t.cursor.mark.column)).tokenAt x).bind refresh := by
  have hcursor : (t.closeBlocks (some t.cursor.mark.column)).cursor = t.cursor := by
    unfold closeBlocks
    split
    · rfl
    · obtain ⟨ts, hts, -⟩ := closeFrom_eq (some t.cursor.mark.column) t t.indents
      rw [hts]
  unfold step
  rw [hnext]
  cases hpeek : t.cursor.peek <;> simp only [hfresh, bind, Except.bind, hcursor, hpeek]

/-- Between two entries, the next step begins in front of the next entry. -/
theorem Between.step_eq {text : List Char} {kinds : List TokenKind} (hs : s.Between text)
    (hlead : lead false 0 text = (n, r)) (hx : r.head? = some x) (hholds : s.Holds (some n) stack kinds) :
    ∃ m reversed, m.column = n ∧ reversed.reverse.map (·.kind) = kinds ∧
      s.step = ((quiet true r m reversed stack).tokenAt x).bind refresh := by
  obtain ⟨r, rfl⟩ := List.head?_eq_some_iff.1 hx
  obtain ⟨m, hnext, rfl⟩ : ∃ m, s.toNextToken (s.cursor.rest.length + 1) =
      { s with cursor := ⟨x :: r, m⟩, keyAllowed := true } ∧ m.column = n := by
    obtain ⟨m, a, hnext, hthere⟩ := hs.next
    rw [hlead] at hnext hthere
    obtain ⟨hcolumn, rfl⟩ := hthere (List.cons_ne_nil x r)
    exact ⟨m, hnext, hcolumn⟩
  obtain ⟨hkey, houter, hcount, -⟩ := hs
  obtain ⟨cursor, reversed, count, indents, allowed, key, outer⟩ := s
  obtain rfl := hkey
  obtain rfl := houter
  obtain rfl : count = reversed.length := hcount
  obtain ⟨ts, hts, hkinds⟩ := closeFrom_eq (some m.column)
    ⟨⟨x :: r, m⟩, reversed, reversed.length, indents, true, none, []⟩ indents
  refine ⟨m, ts ++ reversed, rfl, ?_, ?_⟩
  · rw [← hholds.2, List.reverse_append, List.map_append, hkinds]
    rfl
  · have hclose : closeBlocks ⟨⟨x :: r, m⟩, reversed, reversed.length, indents, true, none, []⟩
        (some m.column) = quiet true (x :: r) m (ts ++ reversed) stack := by
      rw [closeBlocks_of_block rfl, hts, hholds.1]
      simp only [quiet, List.length_append, Nat.add_comm]
    rw [step_of_next hnext (refresh_of_none rfl rfl)]
    simp only [Cursor.peek_cons, hclose]

/-! ## Single tokens -/

/-- A bare scalar begins here. -/
theorem tokenAt_plain (hfirst : IsFirst x r) (hrest : s.cursor.rest = x :: r)
    (hmarker : s.cursor.atDocumentMarker = false) (hblock : s.outerKeys = []) :
    s.tokenAt x = s.plainScalar := by
  obtain ⟨⟨rest, m⟩, reversed, count, indents, allowed, key, outer⟩ := s
  obtain rfl := hrest
  obtain rfl := hblock
  rw [Cursor.atDocumentMarker, Bool.or_eq_false_iff] at hmarker
  obtain ⟨hminus, hdot⟩ := hmarker
  obtain ⟨hspace, hbreak, hfirst⟩ := hfirst
  rcases hfirst with hplain | ⟨hsign, hgap⟩
  · have hne := hplain
    simp [isIndicator] at hne
    simp [tokenAt, hminus, hdot, startsPlain, hplain, gapAt, hspace, hbreak, hne]
  · have hnext : ((⟨r, m⟩ : Cursor).ahead 0).any isSpace = false := by
      cases r with
      | nil => rfl
      | cons y r => exact (Bool.or_eq_false_iff.1 hgap).1
    rcases hsign with rfl | rfl | rfl <;>
      simp [tokenAt, hminus, hdot, startsPlain, hgap, hnext, inFlow]

/-- A scalar between quotation marks begins here. -/
theorem tokenAt_quote (single : Bool) (hrest : s.cursor.rest = Cursor.quoteMark single :: r) :
    s.tokenAt (Cursor.quoteMark single) = s.keyLike (Cursor.quotedScalar single) := by
  obtain ⟨⟨rest, m⟩, reversed, count, indents, allowed, key, outer⟩ := s
  obtain rfl := hrest
  cases single <;> simp [tokenAt, Cursor.quoteMark, Cursor.atMarker]

/-- No quotation mark stands where a gap does. -/
theorem head?_ne_quote_of_gapAt (hr : gapAt r = true) : r.head? ≠ some '\'' := by
  intro hquote
  obtain ⟨r, rfl⟩ := List.head?_eq_some_iff.1 hquote
  cases hr

/-! ## Keys -/

/-- A scanner behind a token that may be a key. -/
def atColon (c : Cursor) (t : Token) (required : Bool) (reversed : List Token) (stack : List Nat) :
    Scanner :=
  ⟨c, t :: reversed, reversed.length + 1, stack, false, some ⟨required, reversed.length, t.start⟩, []⟩

/-- A bare scalar in front of a colon becomes a token that may be a key. -/
theorem tokenAt_bare {w : List Char} (gap : Spacing) (hw : isPlain (x :: w) = true) (hr : gapAt r = true)
    (hmarker : (⟨x :: w ++ (gap.chars ++ ':' :: r), m⟩ : Cursor).atDocumentMarker = false)
    (hstack : ∀ i ∈ stack.head?, i ≤ m.column) :
    (quiet true (x :: w ++ (gap.chars ++ ':' :: r)) m reversed stack).tokenAt x =
      .ok (atColon ⟨':' :: r, m.right ((x :: w).length + gap.chars.length)⟩
        ⟨.scalar (x :: w) .plain, m, m.right (x :: w).length⟩ (stack.head? == some m.column) reversed
        stack) := by
  have hfirst : IsFirst x (w ++ (gap.chars ++ ':' :: r)) := (isPlain_cons hw).1.append
  have hfloor : stack.head?.elim 0 (· + 1) ≤ m.column + 1 := by
    cases hhead : stack.head? with
    | none => exact Nat.zero_le _
    | some i => exact Nat.succ_le_succ (hstack i hhead)
  have hread := Cursor.plainScalar_key hw gap hr hfloor hmarker
  rw [tokenAt_plain hfirst rfl hmarker rfl]
  simp only [quiet, plainScalar, noteKey, dropKey, inFlow, List.isEmpty_nil, Bool.not_true,
    Bool.not_false, Bool.true_and, if_true, bind, Except.bind, pure, Except.pure, hread, push]
  rfl

/-- A scalar between quotation marks becomes a token that may be a key. -/
theorem tokenAt_quoted {single : Bool} (ps : List (Piece single)) (hr : r.head? ≠ some '\'') :
    (quiet true ((Inline.quoted single ps).chars ++ r) m reversed stack).tokenAt (Cursor.quoteMark single) =
      .ok (atColon ⟨r, m.right (Inline.quoted single ps).chars.length⟩
        ⟨(Inline.quoted single ps).scalar.token, m, m.right (Inline.quoted single ps).chars.length⟩
        (stack.head? == some m.column) reversed stack) := by
  rw [tokenAt_quote (r := (ps.flatMap Piece.chars ++ [Cursor.quoteMark single]) ++ r) single rfl]
  simp only [quiet, keyLike, noteKey, dropKey, inFlow, List.isEmpty_nil, Bool.not_true,
    Bool.not_false, Bool.true_and, if_true, bind, Except.bind, pure, Except.pure,
    Cursor.quotedScalar_eq ps hr, push]
  rfl

theorem atMarker_colon {cs : List Char} (hx : x ≠ ':')
    (h : (⟨cs ++ [':'], Mark.origin⟩ : Cursor).atMarker x = false) :
    (⟨cs ++ ':' :: r, m⟩ : Cursor).atMarker x = false := by
  have hcolon : (':' == x) = false := beq_eq_false_iff_ne.2 (Ne.symm hx)
  -- a marker and the gap behind it are four characters
  rcases cs with _ | ⟨a, _ | ⟨b, _ | ⟨c, _ | ⟨d, cs⟩⟩⟩⟩ <;>
    simp_all [Cursor.atMarker, Cursor.sees, Cursor.gapAhead, Cursor.ahead, Mark.origin]

/-- A key is no line that begins or ends a document. -/
theorem atDocumentMarker_key (k : Key) :
    (⟨k.chars ++ ':' :: r, m⟩ : Cursor).atDocumentMarker = false := by
  have hinside := k.inside
  rw [← List.append_assoc, Cursor.atDocumentMarker, Bool.or_eq_false_iff] at hinside
  rw [Cursor.atDocumentMarker, Bool.or_eq_false_iff]
  exact ⟨atMarker_colon (by decide) hinside.1, atMarker_colon (by decide) hinside.2⟩

/-- A scalar in front of a colon becomes a token that may be a key. What is between is passed over with
it, or still to come. -/
theorem exists_tokenAt (k : Key) (reversed : List Token) {w : List Char} (hk : k.word.chars = x :: w)
    (hr : gapAt r = true) (hstack : ∀ i ∈ stack.head?, i ≤ m.column) :
    ∃ a, ∃ gap : Spacing, a + gap.chars.length = k.word.chars.length + k.spacing.chars.length ∧
      (quiet true (k.chars ++ ':' :: r) m reversed stack).tokenAt x =
        .ok (atColon ⟨gap.chars ++ ':' :: r, m.right a⟩
          ⟨k.scalar.token, m, m.right k.word.chars.length⟩ (stack.head? == some m.column) reversed
          stack) := by
  have hmarker := atDocumentMarker_key (r := r) (m := m) k
  obtain ⟨word, gap, short, inside⟩ := k
  cases word with
  | plain text fits =>
    obtain rfl : text = x :: w := hk
    simp only [Key.chars, Inline.chars, List.append_assoc] at hmarker ⊢
    exact ⟨_, .none, rfl, tokenAt_bare gap fits hr hmarker hstack⟩
  | quoted single pieces =>
    have hnext : (gap.chars ++ ':' :: r).head? ≠ some '\'' := by
      by_cases hnil : gap.chars = []
      · simp [hnil]
      · exact head?_ne_quote_of_gapAt ((Separator.mk gap hnil).gapAt _)
    obtain ⟨rfl, -⟩ := List.cons.inj hk
    simp only [Key.chars, List.append_assoc]
    exact ⟨_, gap, rfl, tokenAt_quoted pieces hnext⟩

/-- A token of at most 1024 characters may still be a key behind it. -/
theorem refresh_atColon {rest : List Char} {t : Token} {a : Nat} {required : Bool} (ha : a ≤ 1024) :
    (atColon ⟨rest, t.start.right a⟩ t required reversed stack).refresh =
      .ok (atColon ⟨rest, t.start.right a⟩ t required reversed stack) := by
  have hshort : ¬ 1024 < a := Nat.not_lt.2 ha
  simp [refresh, freshKey, outlived, bind, Except.bind, pure, Except.pure, atColon, hshort]

/-- Where the line goes on and no key is allowed, nothing but a gap is passed over. -/
theorem toNextToken_spacing {fuel : Nat} (gap : Spacing) (hrest : s.cursor.rest = gap.chars ++ x :: r)
    (hkey : s.keyAllowed = false) (hspace : isSpace x = false) (hbreak : isBreak x = false)
    (hhash : x ≠ '#') :
    s.toNextToken (fuel + 1) =
      { s with cursor := ⟨x :: r, s.cursor.mark.right gap.chars.length⟩ } := by
  obtain ⟨⟨rest, m⟩, reversed, count, indents, allowed, key, outer⟩ := s
  obtain rfl : rest = gap.chars ++ x :: r := hrest
  obtain rfl : allowed = false := hkey
  rw [toNextToken]
  simp only
  rw [skipWhile_spacing gap (by simp [isSpace]) (by simpa using hspace)]
  simp [Cursor.skipComment, hhash, hbreak]

/-- A step that closes nothing. -/
theorem step_of_next_within (hnext : s.toNextToken (s.cursor.rest.length + 1) = t)
    (hfresh : t.refresh = .ok t) (houter : t.outerKeys = []) (hrest : t.cursor.rest = x :: r)
    (hhead : ∀ i ∈ t.indents.head?, i ≤ t.cursor.mark.column) :
    s.step = (t.tokenAt x).bind refresh := by
  have hclose : t.closeBlocks (some t.cursor.mark.column) = t := by
    rw [closeBlocks_of_block houter]
    cases hl : t.indents with
    | nil => rw [closeFrom, ← hl]
    | cons i l =>
      have hi : (some t.cursor.mark.column).any (i ≤ ·) = true := by
        simpa using hhead i (by simp [hl])
      rw [closeFrom, hi, if_pos rfl, ← hl]
  have hpeek : t.cursor.peek = some x := by rw [Cursor.peek, Cursor.ahead, hrest]; rfl
  rw [step_of_next hnext hfresh, hpeek, hclose]

/-- The colon makes the token in front of it a key, the first one of a mapping if none is open in its
column. -/
theorem step_atColon (t : Token) (reversed : List Token) (required isOpen : Bool) {a : Nat}
    (gap : Spacing) {outer : List Nat} (hr : gapAt r = true) (hshort : a + gap.chars.length ≤ 1024)
    (houter : ∀ i ∈ outer.head?, i < t.start.column)
    (hstack : stack = if isOpen then t.start.column :: outer else outer) :
    ∃ m reversed', (atColon ⟨gap.chars ++ ':' :: r, t.start.right a⟩ t required reversed stack).step =
        .ok (quiet false r m reversed' (t.start.column :: outer)) ∧
      t.start.column < m.column ∧ reversed'.reverse.map (·.kind) =
        reversed.reverse.map (·.kind) ++ (Outline.opening isOpen ++ [.key, t.kind, .value]) := by
  obtain ⟨b, hb⟩ : ∃ b, gap.chars.length = b := ⟨_, rfl⟩
  rw [hb] at hshort
  have hhead : ∀ i ∈ stack.head?, i ≤ (t.start.right (a + b)).column := by
    intro i hi
    rw [Mark.right_column]
    cases isOpen with
    | true =>
      obtain rfl : t.start.column = i := by simpa [hstack] using hi
      omega
    | false =>
      have := houter i (by simpa [hstack] using hi)
      omega
  have hnext : (atColon ⟨gap.chars ++ ':' :: r, t.start.right a⟩ t required reversed stack).toNextToken
      ((atColon ⟨gap.chars ++ ':' :: r, t.start.right a⟩ t required reversed stack).cursor.rest.length +
        1) = atColon ⟨':' :: r, t.start.right (a + b)⟩ t required reversed stack := by
    rw [toNextToken_spacing gap rfl rfl (by decide) (by decide) (by decide), hb]
    simp only [atColon, Mark.right_right]
  have htoken : (atColon ⟨':' :: r, t.start.right (a + b)⟩ t required reversed stack).tokenAt ':' =
      (atColon ⟨':' :: r, t.start.right (a + b)⟩ t required reversed stack).valueMark := by
    simp [tokenAt, atColon, Cursor.atMarker, hr]
  rw [step_of_next_within hnext (refresh_atColon hshort) rfl rfl hhead, htoken]
  -- the key, and the mapping if it begins here, are put in front of the token
  cases isOpen with
  | true =>
    obtain rfl : stack = t.start.column :: outer := hstack
    refine ⟨t.start.right (a + b + 1), ⟨.value, t.start.right (a + b), t.start.right (a + b + 1)⟩ ::
      t :: ⟨.key, t.start, t.start⟩ :: reversed, ?_, by rw [Mark.right_column]; omega, ?_⟩
    · simp [valueMark, atColon, insert, openBlock, inFlow, pushNext, push, Cursor.skip_one,
        Except.bind, refresh_of_none, quiet, Mark.right_right]
    · simp [Outline.opening]
  | false =>
    obtain rfl : stack = outer := hstack
    have hright : stack.head?.any (t.start.column ≤ ·) = false := by
      cases hs : stack.head? with
      | none => rfl
      | some i => simpa using houter i hs
    refine ⟨t.start.right (a + b + 1), ⟨.value, t.start.right (a + b), t.start.right (a + b + 1)⟩ ::
      t :: ⟨.key, t.start, t.start⟩ :: ⟨.blockMappingStart, t.start, t.start⟩ :: reversed, ?_,
      by rw [Mark.right_column]; omega, ?_⟩
    · simp [valueMark, atColon, insert, openBlock, inFlow, pushNext, push, Cursor.skip_one,
        Except.bind, refresh_of_none, quiet, Mark.right_right, hright]
      rw [show reversed.length + 1 + 1 - reversed.length = 2 by omega]
      rfl
    · simp [Outline.opening]

/-! ## Values -/

/-- From a place that gets to what a text leads to, a scanner does. -/
theorem between_of_reaches {b : Bool} {c : Cursor} {text : List Char} (h : Reaches text b c) :
    (quiet b c.rest c.mark reversed stack).Between text := by
  refine ⟨rfl, rfl, rfl, ?_⟩
  cases h with
  | @line m e htext =>
    exact toNextToken_line (s := quiet false (e.chars ++ text) m reversed stack) e rfl htext rfl rfl
  | next hlead =>
    obtain ⟨m', hnext, hcolumn⟩ := toNextToken_eq (s := quiet true c.rest c.mark reversed stack)
      (Nat.lt_succ_self c.rest.length) rfl rfl
    rw [show (quiet true c.rest c.mark reversed stack).cursor = c from rfl, hlead] at hnext hcolumn
    exact ⟨m', true, hnext, fun hne => ⟨hcolumn hne, rfl⟩⟩

/-- At the beginning, what comes next is what the text leads to. -/
theorem between_start (text : List Char) : (Scanner.start text).Between text :=
  show (quiet true text Mark.origin [⟨.streamStart, Mark.origin, Mark.origin⟩] []).Between text from
    between_of_reaches (c := Cursor.start text) (.next rfl)

/-- Behind a colon a gap is passed over, and what follows is looked at in its own right. -/
theorem step_spacing {gap : Spacing} {outer : List Nat} (hcolumn : n < m.column)
    (hspace : isSpace x = false) (hbreak : isBreak x = false) (hhash : x ≠ '#') :
    (quiet false (gap.chars ++ x :: r) m reversed (n :: outer)).step =
      ((quiet false (x :: r) (m.right gap.chars.length) reversed (n :: outer)).tokenAt x).bind
        refresh := by
  refine step_of_next_within (toNextToken_spacing gap rfl rfl hspace hbreak hhash)
    (refresh_of_none rfl rfl) rfl rfl fun i hi => ?_
  obtain rfl : n = i := by simpa [quiet] using hi
  exact Nat.le_of_lt (Nat.lt_add_right gap.chars.length hcolumn)

/-- A value becomes one token, and the scanner stands where it gets to the next line. -/
theorem exists_tokenAt_value {v : Inline} {w text : List Char} (hv : v.chars = x :: w) (trail : Trail)
    (reversed : List Token) (outer : List Nat) (htext : IsOver text) (hlead : LeadsWithin n text)
    (hcolumn : n < m.column) :
    ∃ b c stop, Reaches text b c ∧
      (quiet false (v.chars ++ (trail.chars ++ text)) m reversed (n :: outer)).tokenAt x =
        .ok (quiet b c.rest c.mark (⟨v.scalar.token, m, stop⟩ :: reversed) (n :: outer)) := by
  cases v with
  | plain cs fits =>
    obtain rfl : cs = x :: w := hv
    have hzero : m.column ≠ 0 := Nat.ne_of_gt (Nat.zero_lt_of_lt hcolumn)
    have hmarker : (⟨x :: w ++ (trail.chars ++ text), m⟩ : Cursor).atDocumentMarker = false :=
      Cursor.atDocumentMarker_of_column hzero
    obtain ⟨b, c, hread, hreaches⟩ := Cursor.plainScalar_value (m := m) fits trail htext hlead
      (Nat.lt_add_one n) hcolumn hzero
    refine ⟨b, c, m.right (x :: w).length, hreaches, ?_⟩
    rw [tokenAt_plain (isPlain_cons fits).1.append rfl hmarker rfl]
    show Except.bind (Cursor.plainScalar false (n + 1) ⟨x :: w ++ (trail.chars ++ text), m⟩) _ = _
    rw [hread]
    rfl
  | quoted single ps =>
    obtain ⟨rfl, -⟩ := List.cons.inj hv
    refine ⟨false, ⟨trail.chars ++ text, m.right (Inline.quoted single ps).chars.length⟩,
      m.right (Inline.quoted single ps).chars.length, .line trail.toLineEnd htext, ?_⟩
    rw [tokenAt_quote (r := ps.flatMap Piece.chars ++ [Cursor.quoteMark single] ++ (trail.chars ++ text))
      single rfl]
    show Except.bind (Cursor.quotedScalar single
      ⟨(Inline.quoted single ps).chars ++ (trail.chars ++ text), m⟩) _ = _
    rw [Cursor.quotedScalar_eq ps (head?_ne_quote_of_gapAt (trail.gapAt htext))]
    rfl

/-- A value becomes one token, and its line ends. -/
theorem step_value (v : Inline) (apart : Spacing) (trail : Trail) (reversed : List Token)
    (outer : List Nat) {text : List Char} (hcolumn : n < m.column) (htext : IsOver text)
    (hlead : LeadsWithin n text) :
    ∃ t, (quiet false (apart.chars ++ (v.chars ++ (trail.chars ++ text))) m reversed (n :: outer)).step =
        .ok t ∧
      t.Between text ∧ t.indents = n :: outer ∧
      t.kinds = reversed.reverse.map (·.kind) ++ [v.scalar.token] := by
  obtain ⟨x, w, hv, hspace, hbreak, hhash⟩ := v.exists_head
  obtain ⟨b, c, stop, hreaches, htoken⟩ := exists_tokenAt_value (m := m.right apart.chars.length) hv
    trail reversed outer htext hlead (Nat.lt_add_right apart.chars.length hcolumn)
  rw [hv, List.cons_append] at htoken ⊢
  refine ⟨quiet b c.rest c.mark (⟨v.scalar.token, m.right apart.chars.length, stop⟩ :: reversed)
    (n :: outer), ?_, between_of_reaches hreaches, rfl, by simp [kinds, quiet]⟩
  rw [step_spacing hcolumn hspace hbreak hhash, htoken]
  exact refresh_of_none rfl rfl

end Scanner

end Cutout.Yaml
