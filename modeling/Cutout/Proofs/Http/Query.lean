import Cutout.Http.Query
import Cutout.Http.Target
import Cutout.Proofs.Search
import Cutout.Proofs.Text.Utf8
import Mathlib.Data.List.TakeWhile

/-!
# Queries as a client writes them

There are many ways to write a pair into a query: a byte stands for itself or is escaped, with digits
in either letter case, and a space can also be a plus sign. `Writes` has all of them, and whichever way
a client chooses, the pairs are read as they were (`pairs_of_writes`).
-/

namespace Cutout.Http

namespace Query

/-! ## Ways of writing -/

/-- A digit of sixteen, in either letter case. -/
def IsHexDigit (x : UInt8) (n : Nat) : Prop :=
  (Bytes.ofAscii "0123456789abcdef")[n]? = some x ∨ (Bytes.ofAscii "0123456789ABCDEF")[n]? = some x

/-- The bytes that mean something else in a value: the number sign, the percent sign, the ampersand and
the plus sign. -/
def reservedInValue : Bytes :=
  Bytes.ofAscii "#%&+"

/-- The bytes that mean something else in a key, where the equals sign does too. -/
def reservedInKey : Bytes :=
  Bytes.ofAscii "#%&+="

/-- The ways of writing a byte. -/
inductive WritesByte (reserved : Bytes) (x : UInt8) : Bytes → Prop
  | plain : x ∉ reserved → WritesByte reserved x [x]
  | plus : x = 32 → WritesByte reserved x [43]
  | escape {high low : UInt8} : IsHexDigit high (x.toNat / 16) → IsHexDigit low (x.toNat % 16) →
      WritesByte reserved x [37, high, low]

/-- The ways of writing bytes, one after the other. -/
inductive WritesBytes (reserved : Bytes) : Bytes → Bytes → Prop
  | nil : WritesBytes reserved [] []
  | cons {x : UInt8} {b w ws : Bytes} : WritesByte reserved x w → WritesBytes reserved b ws →
      WritesBytes reserved (x :: b) (w ++ ws)

/-- The ways of writing a pair. A key alone has an empty value. -/
inductive WritesPair : String × String → Bytes → Prop
  | both {k v : String} {key value : Bytes} : WritesBytes reservedInKey (Bytes.ofText k) key →
      WritesBytes reservedInValue (Bytes.ofText v) value → WritesPair (k, v) (key ++ 61 :: value)
  | alone {k : String} {key : Bytes} : WritesBytes reservedInKey (Bytes.ofText k) key → key ≠ [] →
      WritesPair (k, "") key

/-- The ways of writing a query. -/
def Writes (ps : List (String × String)) (query : Bytes) : Prop :=
  ∃ written, List.Forall₂ WritesPair ps written ∧ query = [38].intercalate written

/-- Bytes can be written as they are if none of them is reserved. -/
theorem writesBytes_self {reserved b : Bytes} (h : ∀ x ∈ b, x ∉ reserved) :
    WritesBytes reserved b b := by
  induction b with
  | nil => exact .nil
  | cons x b ih =>
    have hrest := ih fun y hy => h y (List.mem_cons_of_mem _ hy)
    exact .cons (.plain (h x List.mem_cons_self)) hrest

/-! ## Reading bytes -/

theorem digit?_of_isHexDigit {x : UInt8} {n : Nat} (h : IsHexDigit x n) :
    Text.digit? 16 (Char.ofNat x.toNat) = some n := by
  have hdigits : ∀ n < 16, ∀ x ∈ (Bytes.ofAscii "0123456789abcdef")[n]?.toList ++
      (Bytes.ofAscii "0123456789ABCDEF")[n]?.toList,
      Text.digit? 16 (Char.ofNat x.toNat) = some n := by
    decide +kernel
  have hn : n < 16 := by
    rcases h with h | h
    · exact (List.getElem?_eq_some_iff.1 h).1
    · exact (List.getElem?_eq_some_iff.1 h).1
  refine hdigits n hn x ?_
  rw [List.mem_append, Option.mem_toList, Option.mem_toList]
  exact h

theorem escaped?_of_isHexDigit {x high low : UInt8} (hhigh : IsHexDigit high (x.toNat / 16))
    (hlow : IsHexDigit low (x.toNat % 16)) : escaped? high low = some x := by
  unfold escaped?
  rw [digit?_of_isHexDigit hhigh, digit?_of_isHexDigit hlow]
  simp only [Nat.div_add_mod, UInt8.ofNat_toNat]

theorem decode_cons {x : UInt8} (hplus : x ≠ 43) (hpercent : x ≠ 37) (b : Bytes) :
    decode (x :: b) = x :: decode b := by
  rw [decode]
  · exact hplus
  · rintro y z rest rfl
    exact absurd rfl hpercent

variable {reserved : Bytes}

theorem decode_writesByte {x : UInt8} {w : Bytes} (h : WritesByte reserved x w)
    (hplus : 43 ∈ reserved) (hpercent : 37 ∈ reserved) (rest : Bytes) :
    decode (w ++ rest) = x :: decode rest := by
  cases h with
  | plain hx =>
    refine decode_cons ?_ ?_ rest
    · rintro rfl
      exact hx hplus
    · rintro rfl
      exact hx hpercent
  | plus hx =>
    subst hx
    rfl
  | escape hhigh hlow =>
    show decode (37 :: _ :: _ :: rest) = _
    rw [decode, escaped?_of_isHexDigit hhigh hlow]

theorem decode_writesBytes {b w : Bytes} (h : WritesBytes reserved b w)
    (hplus : 43 ∈ reserved) (hpercent : 37 ∈ reserved) : decode w = b := by
  induction h with
  | nil => rfl
  | cons hbyte _ ih => rw [decode_writesByte hbyte hplus hpercent, ih]

theorem text_writesBytes {s : String} {w : Bytes} (h : WritesBytes reserved (Bytes.ofText s) w)
    (hplus : 43 ∈ reserved) (hpercent : 37 ∈ reserved) : text w = s := by
  unfold text Text.ofUtf8Lossy
  rw [decode_writesBytes h hplus hpercent, Bytes.ofText, Text.scanUtf8_flatMap, List.map_map]
  have hid : ((fun c : Option Char => c.getD '\ufffd') ∘ some) = id := rfl
  rw [hid, List.map_id, String.ofList_toList]

/-! ## What is reserved does not stand for itself -/

/-- A reserved byte that no escape is made of is nowhere. -/
theorem notMem_of_writesBytes {b w : Bytes} (h : WritesBytes reserved b w) {y : UInt8}
    (hy : y ∈ reserved) (hmade : y ∉ Bytes.ofAscii "+%0123456789abcdef0123456789ABCDEF") : y ∉ w := by
  have hlead : y ≠ 43 ∧ y ≠ 37 := by
    constructor
    · rintro rfl
      exact hmade (by decide)
    · rintro rfl
      exact hmade (by decide)
  have hdigit : ∀ n, ¬ IsHexDigit y n := by
    rintro n (hn | hn)
    · have hmem := List.mem_of_getElem? hn
      exact hmade (List.mem_append_left _ (List.mem_append_right [43, 37] hmem))
    · have hmem := List.mem_of_getElem? hn
      exact hmade (List.mem_append_right (Bytes.ofAscii "+%0123456789abcdef") hmem)
  induction h with
  | nil => exact List.not_mem_nil
  | cons hbyte _ ih =>
    rw [List.mem_append]
    rintro (hmem | hmem)
    · cases hbyte with
      | plain hx =>
        obtain rfl := List.mem_singleton.1 hmem
        exact hx hy
      | plus => exact hlead.1 (List.mem_singleton.1 hmem)
      | escape hhigh hlow =>
        rcases List.mem_cons.1 hmem with rfl | hmem
        · exact hlead.2 rfl
        rcases List.mem_cons.1 hmem with rfl | hmem
        · exact hdigit _ hhigh
        · obtain rfl := List.mem_singleton.1 hmem
          exact hdigit _ hlow
    · exact ih hmem

/-! ## Reading pairs -/

namespace WritesPair

variable {p : String × String} {w : Bytes}

/-- A pair is read as it was. -/
theorem pair_eq (h : WritesPair p w) : pair w = p := by
  have hall {key : Bytes} {b : Bytes} (hkey : WritesBytes reservedInKey b key) :
      ∀ x ∈ key, (x != 61) = true := by
    intro x hx
    have hequals := notMem_of_writesBytes hkey (show (61 : UInt8) ∈ reservedInKey by decide) (by decide)
    rw [bne_iff_ne]
    rintro rfl
    exact hequals hx
  cases h with
  | both hkey hvalue =>
    obtain ⟨htake, hdrop⟩ := span_append_stop (hall hkey) (c := 61) rfl _
    unfold pair
    rw [htake, hdrop, List.drop_succ_cons, List.drop_zero,
      text_writesBytes hkey (by decide) (by decide), text_writesBytes hvalue (by decide) (by decide)]
  | alone hkey hne =>
    have hdrop : w.dropWhile (· != 61) = [] := List.dropWhile_eq_nil_iff.2 (hall hkey)
    have htake : w.takeWhile (· != 61) = w := List.takeWhile_eq_self_iff.2 (hall hkey)
    have hnothing : WritesBytes reservedInValue (Bytes.ofText "") [] := .nil
    have hempty : text [] = "" := text_writesBytes hnothing (by decide) (by decide)
    unfold pair
    rw [htake, hdrop, List.drop_nil, text_writesBytes hkey (by decide) (by decide), hempty]

theorem ne_nil (h : WritesPair p w) : w ≠ [] := by
  cases h with
  | both => simp
  | alone _ hne => exact hne

/-- Nothing within a pair ends it, or the query. -/
theorem notMem (h : WritesPair p w) {y : UInt8} (hy : y ∈ [35, 38]) : y ∉ w := by
  have hcases : y = 35 ∨ y = 38 := by simpa using hy
  have hkey : y ∈ reservedInKey := by rcases hcases with rfl | rfl <;> decide
  have hvalue : y ∈ reservedInValue := by rcases hcases with rfl | rfl <;> decide
  have hequals : y ≠ 61 := by rcases hcases with rfl | rfl <;> decide
  have hmade : y ∉ Bytes.ofAscii "+%0123456789abcdef0123456789ABCDEF" := by
    rcases hcases with rfl | rfl <;> decide
  cases h with
  | both hk hv =>
    rw [List.mem_append, List.mem_cons]
    rintro (hmem | rfl | hmem)
    · exact notMem_of_writesBytes hk hkey hmade hmem
    · exact hequals rfl
    · exact notMem_of_writesBytes hv hvalue hmade hmem
  | alone hk => exact notMem_of_writesBytes hk hkey hmade

end WritesPair

theorem exists_writesPair {ps : List (String × String)} {written : List Bytes}
    (h : List.Forall₂ WritesPair ps written) : ∀ w ∈ written, ∃ p, WritesPair p w := by
  induction h with
  | nil => simp
  | cons hp _ ih =>
    intro w hw
    rcases List.mem_cons.1 hw with rfl | hw
    · exact ⟨_, hp⟩
    · exact ih w hw

theorem map_pair_of_writesPair {ps : List (String × String)} {written : List Bytes}
    (h : List.Forall₂ WritesPair ps written) : written.map pair = ps := by
  induction h with
  | nil => rfl
  | cons hp _ ih => rw [List.map_cons, hp.pair_eq, ih]

/-- **A query is read as the pairs that it was written for**, in their order, whichever way they were
written. -/
theorem pairs_of_writes {ps : List (String × String)} {query : Bytes} (h : Writes ps query) :
    pairs query = ps := by
  obtain ⟨written, hwritten, rfl⟩ := h
  have hall := exists_writesPair hwritten
  cases written with
  | nil =>
    cases hwritten
    rfl
  | cons w ws =>
    have hpieces : Text.pieces 38 ([38].intercalate (w :: ws)) = w :: ws := by
      refine Text.pieces_intercalate (by simp) ?_
      intro piece hpiece
      obtain ⟨p, hp⟩ := hall piece hpiece
      exact hp.notMem (by simp)
    have hfilter : (w :: ws).filter (fun piece => !piece.isEmpty) = w :: ws := by
      rw [List.filter_eq_self]
      intro piece hpiece
      obtain ⟨p, hp⟩ := hall piece hpiece
      simpa using hp.ne_nil
    unfold pairs
    rw [hpieces, hfilter, map_pair_of_writesPair hwritten]

/-! ## Targets -/

theorem notMem_intercalate {y : UInt8} (hy : y ≠ 38) {written : List Bytes}
    (h : ∀ w ∈ written, y ∉ w) : y ∉ [38].intercalate written := by
  induction written with
  | nil => simp [List.intercalate]
  | cons w ws ih =>
    have hw := h w List.mem_cons_self
    cases ws with
    | nil => simpa [List.intercalate] using hw
    | cons next ws =>
      have hrest := ih fun q hq => h q (List.mem_cons_of_mem _ hq)
      rw [Text.intercalate_cons_cons, List.mem_append, List.mem_cons]
      rintro (hmem | hmem | hmem)
      · exact hw hmem
      · exact hy hmem
      · exact hrest hmem

/-- No query ends before its target. -/
theorem notMem_of_writes {ps : List (String × String)} {query : Bytes} (h : Writes ps query) :
    35 ∉ query := by
  obtain ⟨written, hwritten, rfl⟩ := h
  refine notMem_intercalate (by decide) ?_
  intro w hw
  obtain ⟨p, hp⟩ := exists_writesPair hwritten w hw
  exact hp.notMem (by simp)

end Query

/-- A path without marks, and the query behind it, are the parts of the target that they make up. -/
theorem Target.ofBytes_query (path : Bytes) {query : Bytes} (hpath : ∀ x ∈ path, endsPath x = false)
    (hquery : 35 ∉ query) :
    Target.ofBytes (47 :: path ++ 63 :: query) = ⟨47 :: path, some query⟩ := by
  have hall : ∀ x ∈ 47 :: path, (!endsPath x) = true := by
    intro x hx
    rcases List.mem_cons.1 hx with rfl | hx
    · rfl
    · rw [hpath x hx, Bool.not_false]
  have hstays : query.takeWhile (· != 35) = query := by
    rw [List.takeWhile_eq_self_iff]
    intro x hx
    rw [bne_iff_ne]
    rintro rfl
    exact hquery hx
  obtain ⟨htake, hdrop⟩ := span_append_stop hall (c := 63) rfl query
  have hpathOf : Target.ofBytes (47 :: path ++ 63 :: query) =
      Target.ofPath (47 :: path ++ 63 :: query) := rfl
  rw [hpathOf, Target.ofPath, htake, hdrop, queryOf, hstays]

end Cutout.Http
