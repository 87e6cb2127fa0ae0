import Cutout.Proofs.Text.Utf8
import Cutout.Text.Json
import Cutout.Text.Number

/-!
# JSON texts that are written are read

The service writes JSON and reads none. Its texts are compared with the grammar that others read them
by: values of every kind with blanks between them, string literals with every escape, and nothing else
(`Json.read?`). An object of strings is read as the object that was written, whatever the strings are
(`read?_object`). The step is one character in a literal, which `character?_escapeChar` reads off what
is written for it: quotes, backslashes and control characters never stand there as they are.
-/

namespace Cutout.Json

/-! ## Values -/

/-- A value. The members of an object keep their order, and a name can come twice. -/
inductive Value where
  | null
  | bool (b : Bool)
  /-- A number, as it is written. -/
  | number (text : List Char)
  | string (s : String)
  | array (values : List Value)
  | object (members : List (String × Value))

/-- Blanks can stand between the parts of a text. -/
def isBlank (c : Char) : Bool :=
  c == ' ' || c == '\t' || c == '\n' || c == '\r'

/-- What follows the blanks. -/
def skip (cs : List Char) : List Char :=
  cs.dropWhile isBlank

/-! ## String literals -/

/-- The character of an escape with one letter. -/
def escaped? : Char → Option Char
  | '"' => some '"'
  | '\\' => some '\\'
  | '/' => some '/'
  | 'b' => some '\x08'
  | 'f' => some '\x0c'
  | 'n' => some '\n'
  | 'r' => some '\r'
  | 't' => some '\t'
  | _ => none

/-- The number of four hexadecimal digits, and what follows them. -/
def unit? : List Char → Option (Nat × List Char)
  | a :: b :: c :: d :: cs => do
    let a ← Text.digit? 16 a
    let b ← Text.digit? 16 b
    let c ← Text.digit? 16 c
    let d ← Text.digit? 16 d
    return (((a * 16 + b) * 16 + c) * 16 + d, cs)
  | _ => none

/-- The character of an escape by numbers: of one number, or of two that are halves of a pair. -/
def numbered? (cs : List Char) : Option (Char × List Char) := do
  let (n, cs) ← unit? cs
  if n < 0xD800 ∨ 0xDFFF < n then return (Char.ofNat n, cs)
  else if 0xDC00 ≤ n then none
  else
    match cs with
    | '\\' :: 'u' :: cs =>
      let (m, cs) ← unit? cs
      if m < 0xDC00 ∨ 0xDFFF < m then none
      else return (Char.ofNat (0x10000 + (n - 0xD800) * 0x400 + (m - 0xDC00)), cs)
    | _ => none

/-- A character of a literal, and what follows it. -/
def character? : List Char → Option (Char × List Char)
  | '\\' :: 'u' :: cs => numbered? cs
  | '\\' :: e :: cs => (escaped? e).map fun c => (c, cs)
  | c :: cs => if c = '"' ∨ c = '\\' ∨ c.toNat < 0x20 then none else some (c, cs)
  | [] => none

/-- The characters of a literal up to its closing quote, and what follows it. -/
def literalFrom : (fuel : Nat) → List Char → Option (List Char × List Char)
  | 0, _ => none
  | _ + 1, '"' :: cs => some ([], cs)
  | fuel + 1, cs => do
    let (c, cs) ← character? cs
    let (s, cs) ← literalFrom fuel cs
    return (c :: s, cs)

/-- The text of a literal behind its opening quote, and what follows it. -/
def literal? (cs : List Char) : Option (String × List Char) :=
  (literalFrom cs.length cs).map fun r => (String.ofList r.1, r.2)

/-! ## Numbers and words -/

/-- Some digits, at least one, and what follows them. -/
def digits? (cs : List Char) : Option (List Char × List Char) :=
  match cs.takeWhile Char.isDigit with
  | [] => none
  | ds => some (ds, cs.dropWhile Char.isDigit)

/-- The part of a number in front of the point: it has no superfluous zeros. -/
def whole? : List Char → Option (List Char × List Char)
  | '0' :: cs => some (['0'], cs)
  | cs => digits? cs

/-- The part of a number behind the point. -/
def fraction? : List Char → Option (List Char × List Char)
  | '.' :: cs => (digits? cs).map fun r => ('.' :: r.1, r.2)
  | cs => some ([], cs)

/-- The power of ten of a number. -/
def exponent? : List Char → Option (List Char × List Char)
  | e :: cs =>
    if e = 'e' ∨ e = 'E' then
      match cs with
      | '+' :: cs => (digits? cs).map fun r => (e :: '+' :: r.1, r.2)
      | '-' :: cs => (digits? cs).map fun r => (e :: '-' :: r.1, r.2)
      | cs => (digits? cs).map fun r => (e :: r.1, r.2)
    else some ([], e :: cs)
  | [] => some ([], [])

/-- A number without a sign. -/
def unsigned? (cs : List Char) : Option (List Char × List Char) := do
  let (whole, cs) ← whole? cs
  let (fraction, cs) ← fraction? cs
  let (exponent, cs) ← exponent? cs
  return (whole ++ fraction ++ exponent, cs)

/-- A number. -/
def number? : List Char → Option (List Char × List Char)
  | '-' :: cs => (unsigned? cs).map fun r => ('-' :: r.1, r.2)
  | cs => unsigned? cs

/-- The words for values. -/
def words : List (String × Value) :=
  [("null", .null), ("true", .bool true), ("false", .bool false)]

/-- A word or a number. -/
def plain? (cs : List Char) : Option (Value × List Char) :=
  match words.find? fun w => w.1.toList.isPrefixOf cs with
  | some (word, v) => some (v, cs.drop word.length)
  | none => (number? cs).map fun r => (.number r.1, r.2)

/-! ## Texts -/

mutual

/-- A value, and what follows it. -/
def value? : (fuel : Nat) → List Char → Option (Value × List Char)
  | 0, _ => none
  | fuel + 1, cs =>
    match skip cs with
    | '"' :: cs => (literal? cs).map fun r => (.string r.1, r.2)
    | '[' :: cs =>
      match skip cs with
      | ']' :: cs => some (.array [], cs)
      | cs => (values? fuel cs).map fun r => (.array r.1, r.2)
    | '\x7b' :: cs =>
      match skip cs with
      | '\x7d' :: cs => some (.object [], cs)
      | cs => (members? fuel cs).map fun r => (.object r.1, r.2)
    | cs => plain? cs

/-- The values of an array up to its closing bracket, at least one, and what follows it. -/
def values? : (fuel : Nat) → List Char → Option (List Value × List Char)
  | 0, _ => none
  | fuel + 1, cs => do
    let (v, cs) ← value? fuel cs
    match skip cs with
    | ',' :: cs => (values? fuel cs).map fun r => (v :: r.1, r.2)
    | ']' :: cs => some ([v], cs)
    | _ => none

/-- The members of an object up to its closing brace, at least one, and what follows it. -/
def members? : (fuel : Nat) → List Char → Option (List (String × Value) × List Char)
  | 0, _ => none
  | fuel + 1, cs =>
    match skip cs with
    | '"' :: cs => do
      let (name, cs) ← literal? cs
      match skip cs with
      | ':' :: cs =>
        let (v, cs) ← value? fuel cs
        match skip cs with
        | ',' :: cs => (members? fuel cs).map fun r => ((name, v) :: r.1, r.2)
        | '\x7d' :: cs => some ([(name, v)], cs)
        | _ => none
      | _ => none
    | _ => none

end

/-- The value of a text: there is nothing but blanks around it. -/
def read? (cs : List Char) : Option Value :=
  match value? cs.length cs with
  | some (v, rest) => if (skip rest).isEmpty then some v else none
  | none => none

/-- The value of a text in UTF-8. -/
def ofBytes? (b : Bytes) : Option Value :=
  (Text.ofUtf8? b).bind fun t => read? t.toList

/-! ## One character -/

theorem unit?_append {front : List Char} {n : Nat} (h : unit? front = some (n, []))
    (rest : List Char) : unit? (front ++ rest) = some (n, rest) := by
  match front with
  | a :: b :: c :: d :: cs =>
    simp only [unit?, Option.bind_eq_bind, Option.bind_eq_some_iff] at h
    obtain ⟨a', ha, b', hb, c', hc, d', hd, h⟩ := h
    obtain ⟨rfl, rfl⟩ := Prod.mk.inj (Option.some.inj h)
    simp [unit?, ha, hb, hc, hd]
  | [] | [_] | [_, _] | [_, _, _] => cases h

/-- The number of a control character is read off its four digits. -/
theorem unit?_hex4 {n : Nat} (h : n < 0x20) (rest : List Char) :
    unit? (hex4 n ++ rest) = some (n, rest) := by
  have hdigits : ∀ n < 0x20, unit? (hex4 n) = some (n, []) := by decide +kernel
  exact unit?_append (hdigits n h) rest

/-- **A character is read off what is written for it**, whatever follows. -/
theorem character?_escapeChar (c : Char) (rest : List Char) :
    character? (escapeChar c ++ rest) = some (c, rest) := by
  have hc : Char.ofNat c.toNat = c := Char.ofNat_toNat c
  unfold escapeChar
  split_ifs with hquote hbackslash hb hf hn hr ht hcontrol
  · subst hquote
    rfl
  · subst hbackslash
    rfl
  · subst hb
    rfl
  · subst hf
    rfl
  · subst hn
    rfl
  · subst hr
    rfl
  · subst ht
    rfl
  · have hsmall : c.toNat < 0xD800 ∨ 0xDFFF < c.toNat := .inl (by omega)
    show numbered? (hex4 c.toNat ++ rest) = some (c, rest)
    unfold numbered?
    simp only [unit?_hex4 hcontrol, Option.bind_eq_bind, Option.bind_some, hsmall, if_true, hc]
    rfl
  · have hplain : ¬ (c = '"' ∨ c = '\\' ∨ c.toNat < 0x20) := by simp [hquote, hbackslash, hcontrol]
    show character? (c :: rest) = some (c, rest)
    unfold character?
    split
    · next h => exact absurd (List.cons.inj h).1 hbackslash
    · next h => exact absurd (List.cons.inj h).1 hbackslash
    · next h =>
      obtain ⟨rfl, rfl⟩ := List.cons.inj h
      rw [if_neg hplain]
    · next h => cases h

/-- What is written for a character does not begin like the end of a literal. -/
theorem escapeChar_eq_cons (c : Char) : ∃ x xs, escapeChar c = x :: xs ∧ x ≠ '"' := by
  unfold escapeChar
  split_ifs with hquote
  on_goal 9 => exact ⟨c, [], rfl, hquote⟩
  all_goals exact ⟨'\\', _, rfl, by decide⟩

/-! ## Literals -/

/-- A literal is read as the text that was written, whatever follows. -/
theorem literalFrom_escaped (s : List Char) (rest : List Char) {fuel : Nat} (h : s.length < fuel) :
    literalFrom fuel (s.flatMap escapeChar ++ '"' :: rest) = some (s, rest) := by
  induction s generalizing fuel with
  | nil =>
    obtain ⟨fuel, rfl⟩ : ∃ k, fuel = k + 1 := ⟨fuel - 1, by omega⟩
    rfl
  | cons c s ih =>
    obtain ⟨fuel, rfl⟩ : ∃ k, fuel = k + 1 := ⟨fuel - 1, by omega⟩
    obtain ⟨x, xs, hx, hne⟩ := escapeChar_eq_cons c
    have hread := character?_escapeChar c (s.flatMap escapeChar ++ '"' :: rest)
    have hmore : literalFrom fuel (s.flatMap escapeChar ++ '"' :: rest) = some (s, rest) :=
      ih (by rw [List.length_cons] at h; omega)
    rw [List.flatMap_cons, List.append_assoc]
    rw [hx, List.cons_append] at hread ⊢
    unfold literalFrom
    split
    · next heq => cases heq
    · next heq => exact absurd (List.cons.inj heq).1 hne
    · next hfuel _ =>
      obtain rfl := Nat.succ.inj hfuel
      simp only [hread, hmore, Option.bind_eq_bind, Option.bind_some]
      rfl

theorem length_le_flatMap_escapeChar (s : List Char) : s.length ≤ (s.flatMap escapeChar).length := by
  induction s with
  | nil => exact Nat.le_refl 0
  | cons c s ih =>
    obtain ⟨x, xs, hx, -⟩ := escapeChar_eq_cons c
    rw [List.flatMap_cons, List.length_append, hx, List.length_cons, List.length_cons]
    omega

/-- A text is read off its literal. -/
theorem literal?_string (s : String) (rest : List Char) :
    ∃ cs, string s ++ rest = '"' :: cs ∧ literal? cs = some (s, rest) := by
  refine ⟨s.toList.flatMap escapeChar ++ '"' :: rest, by simp [string], ?_⟩
  have hfuel : s.toList.length < (s.toList.flatMap escapeChar ++ '"' :: rest).length := by
    have h := length_le_flatMap_escapeChar s.toList
    rw [List.length_append, List.length_cons]
    omega
  unfold literal?
  rw [literalFrom_escaped s.toList rest hfuel]
  simp

/-! ## Objects -/

theorem skip_cons {c : Char} (h : isBlank c = false) (cs : List Char) : skip (c :: cs) = c :: cs :=
  List.dropWhile_cons_of_neg (by rw [h]; exact Bool.false_ne_true)

theorem value?_string (s : String) (rest : List Char) (fuel : Nat) :
    value? (fuel + 1) (string s ++ rest) = some (.string s, rest) := by
  obtain ⟨cs, hcs, hread⟩ := literal?_string s rest
  rw [hcs, value?, skip_cons (by decide)]
  simp only [hread, Option.map_some]

/-- What a list of members is read as. -/
def ofStrings (members : List (String × String)) : List (String × Value) :=
  members.map fun m => (m.1, .string m.2)

/-- The members are read one after the other, up to the closing brace. -/
theorem members?_field (m : String × String) (tail : List Char) (fuel : Nat) :
    members? (fuel + 2) (field m ++ tail) =
      match skip tail with
      | ',' :: cs => (members? (fuel + 1) cs).map fun r => ((m.1, .string m.2) :: r.1, r.2)
      | '\x7d' :: cs => some ([(m.1, .string m.2)], cs)
      | _ => none := by
  have hfield : field m ++ tail = string m.1 ++ (':' :: (string m.2 ++ tail)) := by
    simp [field]
  obtain ⟨cs, hcs, hname⟩ := literal?_string m.1 (':' :: (string m.2 ++ tail))
  rw [hfield, hcs, members?, skip_cons (by decide)]
  simp only [hname, Option.bind_eq_bind, Option.bind_some, skip_cons (show isBlank ':' = false by decide),
    value?_string]

theorem members?_written (m : String × String) (members : List (String × String)) (rest : List Char)
    {fuel : Nat} (h : members.length < fuel) :
    members? (fuel + 1) ([','].intercalate ((m :: members).map field) ++ '\x7d' :: rest) =
      some (ofStrings (m :: members), rest) := by
  induction members generalizing m fuel with
  | nil =>
    obtain ⟨fuel, rfl⟩ : ∃ k, fuel = k + 1 := ⟨fuel - 1, by omega⟩
    have hone : [','].intercalate (([m]).map field) = field m := by simp [List.intercalate]
    rw [hone, members?_field, skip_cons (by decide)]
    rfl
  | cons n members ih =>
    obtain ⟨fuel, rfl⟩ : ∃ k, fuel = k + 1 := ⟨fuel - 1, by omega⟩
    have hmore : [','].intercalate ((m :: n :: members).map field) ++ '\x7d' :: rest =
        field m ++ (',' :: ([','].intercalate ((n :: members).map field) ++ '\x7d' :: rest)) := by
      simp [List.intercalate]
    have hfuel : members.length < fuel := by
      rw [List.length_cons] at h
      omega
    have hrest := ih n hfuel
    rw [hmore, members?_field, skip_cons (by decide)]
    simp only [hrest]
    rfl

/-- Every member takes room in the text. -/
theorem length_lt_fields (m : String × String) (members : List (String × String)) :
    members.length < ([','].intercalate ((m :: members).map field)).length := by
  have hfield (m : String × String) : 0 < (field m).length := by simp [field, string]
  induction members generalizing m with
  | nil => simpa [List.intercalate] using hfield m
  | cons n members ih =>
    have hmore : [','].intercalate ((m :: n :: members).map field) =
        field m ++ (',' :: [','].intercalate ((n :: members).map field)) := by
      simp [List.intercalate]
    have hrest := ih n
    rw [hmore, List.length_append, List.length_cons, List.length_cons]
    omega

/-- An object with at least one member is read up to its closing brace. -/
theorem value?_object (m : String × String) (members : List (String × String)) (rest : List Char)
    {fuel : Nat} (h : members.length < fuel) :
    value? (fuel + 2)
        ('\x7b' :: ([','].intercalate ((m :: members).map field) ++ '\x7d' :: rest)) =
      some (.object (ofStrings (m :: members)), rest) := by
  have hread := members?_written m members rest h
  obtain ⟨cs, hcs⟩ :
      ∃ cs, [','].intercalate ((m :: members).map field) ++ '\x7d' :: rest = '"' :: cs := by
    cases members <;> exact ⟨_, by simp [field, string, List.intercalate]; rfl⟩
  rw [hcs] at hread ⊢
  rw [value?, skip_cons (by decide)]
  simp only [skip_cons (show isBlank '"' = false by decide)]
  show (members? (fuel + 1) ('"' :: cs)).map _ = _
  rw [hread]
  rfl

/-- **An object of strings is read as it was written**: it has these members with these texts, in this
order, and nothing else. -/
theorem read?_object (members : List (String × String)) :
    read? (object members).toList = some (.object (ofStrings members)) := by
  have htext : (object members).toList =
      '\x7b' :: ([','].intercalate (members.map field) ++ ['\x7d']) := by
    simp [object]
  rw [htext]
  unfold read?
  cases members with
  | nil => rfl
  | cons m members =>
    have hfuel := length_lt_fields m members
    rw [List.length_cons, List.length_append, List.length_singleton, value?_object m members [] hfuel]
    rfl

/-- The same for the bytes of the text. -/
theorem ofBytes?_object (members : List (String × String)) :
    ofBytes? (Bytes.ofText (object members)) = some (.object (ofStrings members)) := by
  unfold ofBytes?
  rw [Text.ofUtf8?_ofText, Option.bind_some, read?_object]

/-- A quote that is not escaped ends its literal, and what follows is no text. -/
example : read? "\x7b\"error\":\"a\"b\"\x7d".toList = none := by cbv

end Cutout.Json
