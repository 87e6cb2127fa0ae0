import Cutout.Text.Utf8
import Mathlib.Data.List.Basic
import Mathlib.Tactic.SplitIfs

/-!
# Writing and reading UTF-8

What is written as UTF-8 is read again, strictly, as the same text (`ofUtf8?_ofText`). The step is one
character: `utf8Head_encode` reads it off the bytes that it is written as, whatever follows, and
carries the range checks on the second byte, which hold because a character is no surrogate and no
form is longer than it has to be.

The bytes of a character from ASCII are the character itself, and those of any other character are
no ASCII (`toNat_of_mem_encode`).
-/

namespace Cutout.Text

open String (utf8EncodeChar)

/-! ## The bytes of a character -/

theorem toNat_ofNat {n : Nat} (h : n < 256) : (UInt8.ofNat n).toNat = n := by
  rw [UInt8.toNat_ofNat', Nat.mod_eq_of_lt h]

/-- The first byte of a character, by its number. -/
theorem utf8Width_ofNat {n : Nat} (h : n < 256) :
    utf8Width (UInt8.ofNat n) =
      if n < 0x80 then 1
      else if 0xC2 ≤ n ∧ n ≤ 0xDF then 2
      else if 0xE0 ≤ n ∧ n ≤ 0xEF then 3
      else if 0xF0 ≤ n ∧ n ≤ 0xF4 then 4
      else 0 := by
  simp only [utf8Width, UInt8.lt_iff_toNat_lt, UInt8.le_iff_toNat_le, toNat_ofNat h,
    Bool.and_eq_true, decide_eq_true_eq]
  rfl

/-- The byte of six bits that continues a character. -/
theorem isContinuation_ofNat {n : Nat} (h : n < 0x40) :
    isContinuation (UInt8.ofNat (n + 0x80)) = true := by
  have hn : (UInt8.ofNat (n + 0x80)).toNat = n + 0x80 := toNat_ofNat (by omega)
  simp only [isContinuation, UInt8.le_iff_toNat_le, hn, Bool.and_eq_true, decide_eq_true_eq]
  exact ⟨Nat.le_add_left _ _, show n + 128 ≤ 191 by omega⟩

theorem sixBits_ofNat {n : Nat} (h : n < 0x40) : sixBits (UInt8.ofNat (n + 0x80)) = n := by
  unfold sixBits
  rw [toNat_ofNat (by omega)]
  omega

/-- The second byte of a character, by the numbers of both. -/
theorem secondFits_ofNat {m n : Nat} (hm : m < 256) (hn : n < 256) :
    secondFits (UInt8.ofNat m) (UInt8.ofNat n) = true ↔
      (if m = 0xE0 then 0xA0 ≤ n ∧ n ≤ 0xBF
      else if m = 0xED then 0x80 ≤ n ∧ n ≤ 0x9F
      else if m = 0xF0 then 0x90 ≤ n ∧ n ≤ 0xBF
      else if m = 0xF4 then 0x80 ≤ n ∧ n ≤ 0x8F
      else 0x80 ≤ n ∧ n ≤ 0xBF) := by
  simp only [secondFits, isContinuation, ← UInt8.toNat_inj, UInt8.le_iff_toNat_le, toNat_ofNat hm,
    toNat_ofNat hn]
  simp

/-- The second of three bytes: no overlong form and no surrogate. -/
theorem secondFits_three {a b : Nat} (ha : a < 0x10) (hb : b < 0x40) (hlong : a = 0 → 0x20 ≤ b)
    (hsurrogate : a = 13 → b < 0x20) :
    secondFits (UInt8.ofNat (a + 0xE0)) (UInt8.ofNat (b + 0x80)) = true := by
  rw [secondFits_ofNat (by omega) (by omega)]
  split_ifs <;> omega

/-- The second of four bytes: no overlong form, and nothing behind the last code point. -/
theorem secondFits_four {a b : Nat} (ha : a ≤ 4) (hb : b < 0x40) (hlong : a = 0 → 0x10 ≤ b)
    (hlast : a = 4 → b < 0x10) :
    secondFits (UInt8.ofNat (a + 0xF0)) (UInt8.ofNat (b + 0x80)) = true := by
  rw [secondFits_ofNat (by omega) (by omega)]
  split_ifs <;> omega

/-! ## One character -/

/-- The bytes that a character is written as, by its number. -/
theorem utf8EncodeChar_eq (c : Char) :
    utf8EncodeChar c =
      if c.toNat ≤ 0x7F then [UInt8.ofNat c.toNat]
      else if c.toNat ≤ 0x7FF then
        [UInt8.ofNat (c.toNat / 64 % 0x20 + 0xC0), UInt8.ofNat (c.toNat % 0x40 + 0x80)]
      else if c.toNat ≤ 0xFFFF then
        [UInt8.ofNat (c.toNat / 4096 % 0x10 + 0xE0), UInt8.ofNat (c.toNat / 64 % 0x40 + 0x80),
          UInt8.ofNat (c.toNat % 0x40 + 0x80)]
      else
        [UInt8.ofNat (c.toNat / 262144 % 0x08 + 0xF0), UInt8.ofNat (c.toNat / 4096 % 0x40 + 0x80),
          UInt8.ofNat (c.toNat / 64 % 0x40 + 0x80), UInt8.ofNat (c.toNat % 0x40 + 0x80)] :=
  rfl

/-- A character is no surrogate, and not behind the last code point. -/
theorem toNat_valid (c : Char) : c.toNat < 0xD800 ∨ 0xDFFF < c.toNat ∧ c.toNat < 0x110000 :=
  c.valid

/-- **A character is read off the bytes that it is written as**, whatever follows them. -/
theorem utf8Head_encode (c : Char) :
    ∃ a r, utf8EncodeChar c = a :: r ∧
      ∀ rest, utf8Head a (r ++ rest) = (some c, r.length + 1) := by
  have hvalid := toNat_valid c
  have hc : Char.ofNat c.toNat = c := Char.ofNat_toNat c
  rw [utf8EncodeChar_eq]
  generalize c.toNat = n at hvalid hc ⊢
  split_ifs with hone htwo hthree
  · refine ⟨_, [], rfl, fun rest => ?_⟩
    have hwidth : utf8Width (UInt8.ofNat n) = 1 := by
      rw [utf8Width_ofNat (by omega), if_pos (by omega)]
    unfold utf8Head
    simp only [hwidth]
    rw [toNat_ofNat (by omega), hc]
    rfl
  · refine ⟨_, [_], rfl, fun rest => ?_⟩
    have hwidth : utf8Width (UInt8.ofNat (n / 64 % 0x20 + 0xc0)) = 2 := by
      rw [utf8Width_ofNat (by omega), if_neg (by omega), if_pos (by omega)]
    have hvalue : (n / 64 % 32 + 192) % 32 * 64 + n % 64 = n := by omega
    unfold utf8Head
    simp only [hwidth, List.cons_append, isContinuation_ofNat (show n % 0x40 < 0x40 by omega),
      if_true]
    rw [toNat_ofNat (by omega), sixBits_ofNat (by omega), hvalue, hc]
    rfl
  · refine ⟨_, [_, _], rfl, fun rest => ?_⟩
    have hwidth : utf8Width (UInt8.ofNat (n / 4096 % 0x10 + 0xe0)) = 3 := by
      rw [utf8Width_ofNat (by omega), if_neg (by omega), if_neg (by omega), if_pos (by omega)]
    have hsecond := secondFits_three (a := n / 4096 % 0x10) (b := n / 64 % 0x40) (by omega)
      (by omega) (by omega) (by omega)
    have hvalue : ((n / 4096 % 16 + 224) % 16 * 64 + n / 64 % 64) * 64 + n % 64 = n := by omega
    unfold utf8Head
    simp only [hwidth, List.cons_append, hsecond,
      isContinuation_ofNat (show n % 0x40 < 0x40 by omega), Bool.not_true, Bool.false_eq_true,
      if_false]
    rw [toNat_ofNat (by omega), sixBits_ofNat (by omega), sixBits_ofNat (by omega), hvalue, hc]
    rfl
  · refine ⟨_, [_, _, _], rfl, fun rest => ?_⟩
    have hwidth : utf8Width (UInt8.ofNat (n / 262144 % 0x08 + 0xf0)) = 4 := by
      rw [utf8Width_ofNat (by omega), if_neg (by omega), if_neg (by omega), if_neg (by omega),
        if_pos (by omega)]
    have hsecond := secondFits_four (a := n / 262144 % 0x08) (b := n / 4096 % 0x40) (by omega)
      (by omega) (by omega) (by omega)
    have hvalue : (((n / 262144 % 8 + 240) % 8 * 64 + n / 4096 % 64) * 64 + n / 64 % 64) * 64 +
        n % 64 = n := by omega
    unfold utf8Head
    simp only [hwidth, List.cons_append, hsecond,
      isContinuation_ofNat (show n / 64 % 0x40 < 0x40 by omega),
      isContinuation_ofNat (show n % 0x40 < 0x40 by omega), Bool.not_true, Bool.false_eq_true,
      if_false]
    rw [toNat_ofNat (by omega), sixBits_ofNat (by omega), sixBits_ofNat (by omega),
      sixBits_ofNat (by omega), hvalue, hc]
    rfl

theorem scanUtf8_encode_append (c : Char) (rest : Bytes) :
    scanUtf8 (utf8EncodeChar c ++ rest) = some c :: scanUtf8 rest := by
  obtain ⟨a, r, hencode, hhead⟩ := utf8Head_encode c
  rw [hencode, List.cons_append, scanUtf8, hhead]
  simp

/-! ## A text -/

theorem scanUtf8_flatMap (cs : List Char) :
    scanUtf8 (cs.flatMap utf8EncodeChar) = cs.map some := by
  induction cs with
  | nil => rw [List.flatMap_nil, scanUtf8, List.map_nil]
  | cons c cs ih => rw [List.flatMap_cons, scanUtf8_encode_append, ih, List.map_cons]

/-- **A text is read again from its UTF-8 form.** -/
theorem ofUtf8?_ofText (s : String) : ofUtf8? (Bytes.ofText s) = some s := by
  have hmap : ∀ cs : List Char, List.mapM id (cs.map some) = some cs := by
    intro cs
    induction cs with
    | nil => rfl
    | cons c cs ih => simp [List.mapM_cons, ih]
  unfold ofUtf8? Bytes.ofText
  rw [scanUtf8_flatMap, hmap, Option.map_some, String.ofList_toList]

/-! ## ASCII -/

/-- A byte below 128 is the character itself. -/
theorem toNat_of_mem_encode {c : Char} {x : UInt8} (hx : x ∈ utf8EncodeChar c) (hlt : x.toNat < 0x80) :
    x.toNat = c.toNat := by
  rw [utf8EncodeChar_eq] at hx
  generalize c.toNat = n at hx ⊢
  have hlarge : ∀ m, 0x80 ≤ m → m < 256 → x ≠ UInt8.ofNat m := by
    rintro m hm hbyte rfl
    rw [toNat_ofNat hbyte] at hlt
    omega
  split_ifs at hx with hone <;> simp only [List.mem_cons, List.not_mem_nil, or_false] at hx
  · rw [hx, toNat_ofNat (by omega)]
  -- every byte of a longer form is at least 128
  · rcases hx with hx | hx <;> exact absurd hx (hlarge _ (by omega) (by omega))
  · rcases hx with hx | hx | hx <;> exact absurd hx (hlarge _ (by omega) (by omega))
  · rcases hx with hx | hx | hx | hx <;> exact absurd hx (hlarge _ (by omega) (by omega))

/-- A byte of ASCII stands in the form of a text only where its character stands in the text. -/
theorem mem_of_mem_ofText {s : String} {x : UInt8} (hx : x ∈ Bytes.ofText s) (hlt : x.toNat < 0x80) :
    ∃ c ∈ s.toList, c.toNat = x.toNat := by
  obtain ⟨c, hc, hxc⟩ := List.mem_flatMap.1 hx
  exact ⟨c, hc, (toNat_of_mem_encode hxc hlt).symm⟩

theorem encode_of_ascii {c : Char} (h : c.toNat < 0x80) :
    utf8EncodeChar c = [UInt8.ofNat c.toNat] := by
  rw [utf8EncodeChar_eq, if_pos (by omega)]

/-- A text in ASCII has one byte for each character. -/
theorem ofText_of_ascii {s : String} (h : ∀ c ∈ s.toList, c.toNat < 0x80) :
    Bytes.ofText s = Bytes.ofAscii s := by
  unfold Bytes.ofText Bytes.ofAscii
  rw [List.map_eq_flatMap]
  exact List.flatMap_congr fun c hc => encode_of_ascii (h c hc)

end Cutout.Text
