import Cutout.Proofs.Http.Lookup
import Cutout.Proofs.Search
import Cutout.Proofs.Text.Utf8
import Mathlib.Data.List.TakeWhile

/-!
# The boundary that a client announces

A client announces its boundary in the header for the kind of body, without quotes. Any token can be
announced so, and is found there letter for letter (`dividesBy_of_announcement`): no character of a
token ends a token, is a quote, or is changed on the way through the header.
-/

namespace Cutout.Http

/-- A token is not empty. -/
structure IsTokenText (cs : List Char) : Prop where
  ne_nil : cs ≠ []
  all : ∀ c ∈ cs, isToken c = true

/-- The header that announces a boundary. -/
def announcement (boundary : List Char) : Bytes :=
  Bytes.ofAscii "multipart/form-data; boundary=" ++ Bytes.ofText (String.ofList boundary)

/-- The characters of tokens are visible ASCII. -/
theorem isToken_range {c : Char} (h : isToken c = true) : 32 < c.toNat ∧ c.toNat < 127 := by
  unfold isToken at h
  rw [Bool.or_eq_true] at h
  rcases h with h | h
  · change ((decide (c.val ≥ 65 ∧ c.val ≤ 90) || (decide (c.val ≥ 97) && decide (c.val ≤ 122))) ||
      (decide (c.val ≥ 48) && decide (c.val ≤ 57))) = true at h
    simp only [Bool.or_eq_true, decide_eq_true_eq, ge_iff_le, Bool.and_eq_true,
      UInt32.le_iff_toNat_le] at h
    change ((65 ≤ c.toNat ∧ c.toNat ≤ 90) ∨ (97 ≤ c.toNat ∧ c.toNat ≤ 122)) ∨
      (48 ≤ c.toNat ∧ c.toNat ≤ 57) at h
    omega
  · have hall : ("!#$%&'*+-.^_\x60|~".toList.all fun d => 32 < d.toNat && d.toNat < 127) = true := by
      decide
    have hc := List.all_eq_true.1 hall c (by simpa using h)
    simpa using hc

namespace IsTokenText

variable {cs : List Char}

theorem ofText_eq (h : IsTokenText cs) :
    Bytes.ofText (String.ofList cs) = cs.map fun c => UInt8.ofNat c.toNat := by
  rw [Text.ofText_of_ascii]
  · unfold Bytes.ofAscii
    rw [String.toList_ofList]
  · intro c hc
    rw [String.toList_ofList] at hc
    have := isToken_range (h.all c hc)
    omega

/-- No line ends within a token. -/
theorem return_notMem (h : IsTokenText cs) : 13 ∉ Bytes.ofText (String.ofList cs) := by
  intro hmem
  obtain ⟨c, hc, hcode⟩ := Text.mem_of_mem_ofText hmem (by decide)
  rw [String.toList_ofList] at hc
  have hlow := (isToken_range (h.all c hc)).1
  have hcode : c.toNat = 13 := hcode
  omega

theorem visible?_append (h : IsTokenText cs) {lead : Bytes} (hlead : ∀ x ∈ lead, isVisible x = true) :
    visible? (lead ++ Bytes.ofText (String.ofList cs)) =
      some ((lead.map fun x => Char.ofNat x.toNat) ++ cs) := by
  rw [h.ofText_eq]
  have hbyte : ∀ c ∈ cs, (UInt8.ofNat c.toNat).toNat = c.toNat := by
    intro c hc
    have := isToken_range (h.all c hc)
    exact Text.toNat_ofNat (by omega)
  have hall : (lead ++ cs.map fun c => UInt8.ofNat c.toNat).all isVisible = true := by
    rw [List.all_eq_true]
    intro x hx
    rcases List.mem_append.1 hx with hx | hx
    · exact hlead x hx
    · obtain ⟨c, hc, rfl⟩ := List.mem_map.1 hx
      have hrange := isToken_range (h.all c hc)
      simp only [isVisible, Bool.or_eq_true, Bool.and_eq_true, decide_eq_true_eq,
        UInt8.le_iff_toNat_le, UInt8.lt_iff_toNat_lt, hbyte c hc]
      exact .inr ⟨Nat.le_of_lt hrange.1, hrange.2⟩
  have hback : (cs.map fun c => UInt8.ofNat c.toNat).map (fun x => Char.ofNat x.toNat) = cs := by
    rw [List.map_map]
    refine (List.map_congr_left fun c hc => ?_).trans (List.map_id cs)
    show Char.ofNat (UInt8.ofNat c.toNat).toNat = c
    rw [hbyte c hc, Char.ofNat_toNat]
  unfold visible?
  rw [if_pos hall, List.map_append, hback]

theorem tokenValue_eq (h : IsTokenText cs) : MediaType.tokenValue cs = some (cs, []) := by
  have htake : cs.takeWhile isToken = cs := List.takeWhile_eq_self_iff.2 h.all
  have hdrop : cs.dropWhile isToken = [] := List.dropWhile_eq_nil_iff.2 h.all
  unfold MediaType.tokenValue
  simp [htake, hdrop]

/-- A token is no value between quotes, since it does not begin with a quote. -/
theorem valueOf_eq (h : IsTokenText cs) : MediaType.valueOf cs = some (cs, []) := by
  unfold MediaType.valueOf
  split
  · have hquote := h.all '"' List.mem_cons_self
    exact absurd hquote (by decide)
  · exact h.tokenValue_eq

end IsTokenText

namespace MediaType

/-- The last parameter is a token behind an equals sign. -/
theorem parametersFrom_last {text name cs : List Char} (hne : text ≠ [])
    (hname : (text.dropWhile (· == ' ')).takeWhile isToken = name)
    (hequals : (text.dropWhile (· == ' ')).dropWhile isToken = '=' :: cs)
    (hempty : name.isEmpty = false) (h : IsTokenText cs) (fuel : Nat) :
    parametersFrom (fuel + 1) text = some [(name.map Text.asciiLowerChar, cs)] := by
  cases text with
  | nil => exact absurd rfl hne
  | cons c text =>
    unfold parametersFrom
    simp only [hname, hequals, hempty, h.valueOf_eq]

/-- A media type with parameters. -/
theorem parse?_of_parameters {text kind r subtype q : List Char}
    {parameters : List (List Char × List Char)} (hkind : text.takeWhile isToken = kind)
    (hslash : text.dropWhile isToken = '/' :: r) (hne : kind.isEmpty = false)
    (hsubtype : r.takeWhile isToken = subtype) (hsemicolon : r.dropWhile isToken = ';' :: q)
    (hne' : subtype.isEmpty = false)
    (hparameters : parametersFrom (q.length + 1) q = some parameters) :
    parse? text = some ⟨kind.map Text.asciiLowerChar,
      (withoutSuffix subtype).map Text.asciiLowerChar, parameters⟩ := by
  unfold parse?
  simp only [hkind, hslash, hne, hsubtype, hsemicolon, hne', hparameters, Option.map_some,
    Bool.false_eq_true, if_false]

/-- **A token is announced as it is.** -/
theorem parse?_announcement {cs : List Char} (h : IsTokenText cs) :
    parse? ("multipart/form-data; boundary=".toList ++ cs) =
      some ⟨"multipart".toList, "form-data".toList, [("boundary".toList, cs)]⟩ := by
  have hkind : ∀ c ∈ "multipart".toList, isToken c = true := List.all_eq_true.1 (by decide)
  have hsubtype : ∀ c ∈ "form-data".toList, isToken c = true := List.all_eq_true.1 (by decide)
  have hname : ∀ c ∈ "boundary".toList, isToken c = true := List.all_eq_true.1 (by decide)
  have hlead : "multipart/form-data; boundary=".toList =
      "multipart".toList ++ '/' :: ("form-data".toList ++ ';' :: " boundary=".toList) := by decide
  have hspace : (" boundary=".toList ++ cs).dropWhile (· == ' ') =
      "boundary".toList ++ '=' :: cs := rfl
  have hwhole : "multipart/form-data; boundary=".toList ++ cs =
      "multipart".toList ++ '/' :: ("form-data".toList ++ ';' :: (" boundary=".toList ++ cs)) := by
    rw [hlead]
    simp only [List.append_assoc, List.cons_append]
  obtain ⟨htake, hdrop⟩ := span_append_stop hkind (c := '/') (by decide)
    ("form-data".toList ++ ';' :: (" boundary=".toList ++ cs))
  obtain ⟨htake', hdrop'⟩ := span_append_stop hsubtype (c := ';') (by decide)
    (" boundary=".toList ++ cs)
  obtain ⟨htake'', hdrop''⟩ := span_append_stop hname (c := '=') (by decide) cs
  have hparameters : parametersFrom ((" boundary=".toList ++ cs).length + 1)
      (" boundary=".toList ++ cs) = some [("boundary".toList, cs)] :=
    parametersFrom_last (by simp) (hspace ▸ htake'') (hspace ▸ hdrop'') rfl h _
  rw [hwhole]
  exact parse?_of_parameters htake hdrop rfl htake' hdrop' rfl hparameters

end MediaType

/-- A request announces a boundary if its first header for the kind of body is the announcement. -/
theorem dividesBy_of_announcement {r : Request} {boundary : List Char} (h : IsTokenText boundary)
    (hr : HasHeader r.headers "content-type" (announcement boundary)) : DividesBy r boundary := by
  have hlead : ∀ x ∈ Bytes.ofAscii "multipart/form-data; boundary=", isVisible x = true :=
    List.all_eq_true.1 (by decide)
  exact ⟨_, _, _, hr, h.visible?_append hlead, MediaType.parse?_announcement h, rfl, rfl, rfl⟩

end Cutout.Http
