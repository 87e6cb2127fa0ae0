import Cutout.Proofs.Http.Multipart.Grammar
import Cutout.Proofs.Text.Utf8

/-!
# Parts as a client writes them

A client writes the names of a part between double quotes into one header, and puts a second header
behind it if the part is a file. Names are plain: they hold no control character, no quote and no
backslash, so that nothing in them has to be escaped.

The two headers are read again as they were written (`Part.headersFrom_head`), and they give the
name of the field, and the name of the file if the field is `file` (`Part.upload?_namesOf`). For
another field the search for the file name can stop in the name of the field; it is of no
consequence there.
-/

namespace Cutout.Http.Multipart

open Disposition

/-! ## Parts -/

/-- A part of a body that a client writes. -/
structure Part where
  name : String
  fileName : Option String
  content : Bytes
  deriving DecidableEq, Repr

namespace Part

/-- The disposition of a part. -/
def disposition (p : Part) : Bytes :=
  Bytes.ofAscii "form-data; name=\"" ++ Bytes.ofText p.name ++ Bytes.ofAscii "\"" ++
    match p.fileName with
    | none => []
    | some f => Bytes.ofAscii "; filename=\"" ++ Bytes.ofText f ++ Bytes.ofAscii "\""

/-- The headers of a part, without the end of the last line. -/
def head (p : Part) : Bytes :=
  Bytes.ofAscii "Content-Disposition: " ++ p.disposition ++
    match p.fileName with
    | none => []
    | some _ => lineEnd ++ Bytes.ofAscii "Content-Type: application/octet-stream"

/-- A part with the line of its boundary in front, and the end of its last line. -/
def written (boundary : Bytes) (p : Part) : Bytes :=
  delimiter boundary ++ lineEnd ++ p.head ++ lineEnd ++ lineEnd ++ p.content ++ lineEnd

/-- The upload that a part is, if its field is `file` and it has a file name. -/
def upload? (p : Part) : Option Upload :=
  if p.name = "file" then p.fileName.map fun f => ⟨f, p.content⟩ else none

end Part

/-- No control character, no double quote and no backslash. -/
def IsPlain (c : Char) : Prop :=
  32 ≤ c.toNat ∧ c.toNat ≠ 127 ∧ c ≠ '"' ∧ c ≠ '\\'

instance : DecidablePred IsPlain :=
  fun _ => inferInstanceAs (Decidable (_ ∧ _))

/-- A text of plain characters. -/
def IsPlainText (s : String) : Prop :=
  ∀ c ∈ s.toList, IsPlain c

instance : DecidablePred IsPlainText :=
  fun s => List.decidableBAll IsPlain s.toList

/-- Plain names, and a content that no boundary stands in. -/
structure Part.IsPlain (boundary : Bytes) (p : Part) : Prop where
  name : IsPlainText p.name
  fileName : ∀ f, p.fileName = some f → IsPlainText f
  content : ¬ lineEnd ++ delimiter boundary <:+: p.content

instance (boundary : Bytes) : DecidablePred (Part.IsPlain boundary) :=
  fun p => decidable_of_iff
    (IsPlainText p.name ∧ (∀ f ∈ p.fileName, IsPlainText f) ∧
      ¬ lineEnd ++ delimiter boundary <:+: p.content)
    ⟨fun h => ⟨h.1, h.2.1, h.2.2⟩, fun h => ⟨h.name, h.fileName, h.content⟩⟩

/-! ## What plain texts are made of -/

namespace IsPlainText

variable {s : String}

theorem isValue (h : IsPlainText s) {x : UInt8} (hx : x ∈ Bytes.ofText s) : isValue x = true := by
  simp only [Multipart.isValue, Bool.or_eq_true, beq_iff_eq, Bool.and_eq_true, decide_eq_true_eq,
    bne_iff_ne, ne_eq, UInt8.le_iff_toNat_le, ← UInt8.toNat_inj]
  by_cases hlt : x.toNat < 0x80
  · obtain ⟨c, hc, hcx⟩ := Text.mem_of_mem_ofText hx hlt
    obtain ⟨hlow, hdel, -, -⟩ := h c hc
    rw [hcx] at hlow hdel
    exact .inr ⟨hlow, hdel⟩
  · refine .inr ⟨?_, ?_⟩
    · show 32 ≤ x.toNat
      omega
    · show ¬ x.toNat = 127
      omega

theorem notMem (h : IsPlainText s) {c : Char} (hascii : c.toNat < 0x80) (hc : ¬ IsPlain c) :
    UInt8.ofNat c.toNat ∉ Bytes.ofText s := by
  intro hx
  have hcode : (UInt8.ofNat c.toNat).toNat = c.toNat := Text.toNat_ofNat (by omega)
  obtain ⟨d, hd, hdx⟩ := Text.mem_of_mem_ofText hx (by omega)
  have hdc : d = c := Char.toNat_inj.1 (hdx.trans hcode)
  exact hc (hdc ▸ h d hd)

theorem quote_notMem (h : IsPlainText s) : 34 ∉ Bytes.ofText s :=
  h.notMem (c := '"') (by decide) fun hplain => hplain.2.2.1 rfl

theorem backslash_notMem (h : IsPlainText s) : 92 ∉ Bytes.ofText s :=
  h.notMem (c := '\\') (by decide) fun hplain => hplain.2.2.2 rfl

theorem return_notMem (h : IsPlainText s) : 13 ∉ Bytes.ofText s :=
  h.notMem (c := '\r') (by decide) fun hplain => absurd hplain.1 (by decide)

end IsPlainText

/-! ## Attributes -/

/-- Text without quotes and backslashes is read up to the quote behind it. -/
theorem quotedFrom_append {b : Bytes} (hquote : 34 ∉ b) (hbackslash : 92 ∉ b)
    (reversed rest : Bytes) :
    quotedFrom reversed (b ++ 34 :: rest) = some (reversed.reverse ++ b) := by
  induction b generalizing reversed with
  | nil => simp [quotedFrom]
  | cons x b ih =>
    have hx : x ≠ 34 := fun e => hquote (e ▸ List.mem_cons_self)
    have hx' : x ≠ 92 := fun e => hbackslash (e ▸ List.mem_cons_self)
    have hb : 34 ∉ b := fun h => hquote (List.mem_cons_of_mem x h)
    have hb' : 92 ∉ b := fun h => hbackslash (List.mem_cons_of_mem x h)
    rw [List.cons_append, quotedFrom, ih hb hb']
    · simp
    · rintro b' rfl
      exact absurd rfl hx'
    · exact hx

theorem valueAfter_quoted {s : String} (h : IsPlainText s) (rest : Bytes) :
    valueAfter (Bytes.ofAscii "=\"" ++ Bytes.ofText s ++ Bytes.ofAscii "\"" ++ rest) =
      some (Bytes.ofText s) := by
  have hread := quotedFrom_append h.quote_notMem h.backslash_notMem [] rest
  rw [List.append_assoc, List.append_assoc]
  exact hread

/-- An attribute is read behind the first place where its name stands, if a word begins there. -/
theorem attribute?_of_cut {name : String} {b before after : Bytes} {x : UInt8} {s : String}
    (hcut : Bytes.cut? (Bytes.ofAscii name) b = some (before, after))
    (hlast : before.getLast? = some x) (hx : precedes x = true)
    (hvalue : valueAfter after = some (Bytes.ofText s)) : attribute? name b = some s := by
  unfold attribute?
  rw [find, hcut]
  simp only [hlast, hx, if_true, hvalue, Option.bind_some]
  exact Text.ofUtf8?_ofText s

namespace Part

variable {boundary : Bytes} {p : Part}

/-- The name of the field is the first attribute: nothing in front of it looks like its name. -/
theorem attribute?_name (hname : IsPlainText p.name) :
    attribute? "name" p.disposition = some p.name := by
  obtain ⟨rest, hrest⟩ : ∃ rest, p.disposition =
      Bytes.ofAscii "form-data; " ++ (Bytes.ofAscii "name" ++
        (Bytes.ofAscii "=\"" ++ Bytes.ofText p.name ++ Bytes.ofAscii "\"" ++ rest)) :=
    ⟨_, by unfold disposition; simp only [List.append_assoc]; rfl⟩
  have hcut : Bytes.cut? (Bytes.ofAscii "name") p.disposition =
      some (Bytes.ofAscii "form-data; ",
        Bytes.ofAscii "=\"" ++ Bytes.ofText p.name ++ Bytes.ofAscii "\"" ++ rest) := by
    have hn : 110 ∉ Bytes.ofAscii "form-data; " := by decide
    have hpass := Bytes.cut?_append_of_notMem (Bytes.ofAscii "ame") hn
      (Bytes.ofAscii "name" ++
        (Bytes.ofAscii "=\"" ++ Bytes.ofText p.name ++ Bytes.ofAscii "\"" ++ rest))
    rw [hrest]
    refine hpass.trans ?_
    show (Bytes.cut? (Bytes.ofAscii "name") _).map _ = _
    rw [Bytes.cut?_append_self, Option.map_some, List.append_nil]
  exact attribute?_of_cut hcut (x := 32) rfl rfl (valueAfter_quoted hname rest)

/-- Behind the name `file` the file name is found, which nothing in front of it looks like. -/
theorem attribute?_fileName {f : String} (hfile : p.name = "file") (hf : p.fileName = some f)
    (hplain : IsPlainText f) : attribute? "filename" p.disposition = some f := by
  have hrest : p.disposition =
      Bytes.ofAscii "form-data; name=\"file\"; " ++ Bytes.ofAscii "filename" ++
        (Bytes.ofAscii "=\"" ++ Bytes.ofText f ++ Bytes.ofAscii "\"" ++ []) := by
    unfold disposition
    rw [hfile, hf, List.append_nil]
    simp only [← List.append_assoc]
    rfl
  have hcut : Bytes.cut? (Bytes.ofAscii "filename") p.disposition =
      some (Bytes.ofAscii "form-data; name=\"file\"; ",
        Bytes.ofAscii "=\"" ++ Bytes.ofText f ++ Bytes.ofAscii "\"" ++ []) := by
    have hm : 102 ∉ Bytes.ofAscii "ilename" := by decide
    have hnone : ¬ Bytes.ofAscii "filename" <:+: Bytes.ofAscii "form-data; name=\"file\"; " := by
      decide
    rw [hrest]
    exact Bytes.cut?_append_mark hm hnone _
  exact attribute?_of_cut hcut (x := 32) rfl rfl (valueAfter_quoted hplain [])

theorem attribute?_fileName_none (hfile : p.name = "file") (hf : p.fileName = none) :
    attribute? "filename" p.disposition = none := by
  have hrest : p.disposition = Bytes.ofAscii "form-data; name=\"file\"" := by
    unfold disposition
    rw [hfile, hf]
    rfl
  have hcut : Bytes.cut? (Bytes.ofAscii "filename") p.disposition = none := by
    rw [hrest]
    decide
  unfold attribute?
  rw [find, hcut]
  rfl

end Part

/-! ## Headers -/

/-- What does not begin with padding is not shortened. -/
theorem dropWhile_of_head? {f : UInt8 → Bool} {b : Bytes}
    (h : ∀ x, b.head? = some x → f x = false) : b.dropWhile f = b := by
  cases b with
  | nil => rfl
  | cons x b => rw [List.dropWhile_cons, h x rfl]; rfl

theorem trimEnd_of_getLast? {b : Bytes} (h : ∀ x, b.getLast? = some x → isPadding x = false) :
    trimEnd b = b := by
  unfold trimEnd
  rw [dropWhile_of_head?, List.reverse_reverse]
  intro x hx
  rw [List.head?_reverse] at hx
  exact h x hx

/-- A header is read as it is written, if its value neither begins nor ends with padding. -/
theorem header_written (name : Bytes) {value : Bytes} (hne : name ≠ [])
    (hname : ∀ x ∈ name, isName x = true)
    (hvalue : ∀ x ∈ value, isValue x = true)
    (hhead : ∀ x, value.head? = some x → isPadding x = false) (hempty : value ≠ [])
    (hlast : ∀ x, value.getLast? = some x → isPadding x = false) (rest : Bytes) :
    header (name ++ 58 :: 32 :: (value ++ 13 :: 10 :: rest)) =
      some (⟨String.ofList (name.map fun x => Char.ofNat x.toNat), value⟩, rest) := by
  obtain ⟨htake, hdrop⟩ := span_append_stop hname (c := 58) (by decide)
    (32 :: (value ++ 13 :: 10 :: rest))
  obtain ⟨htakeValue, hdropValue⟩ := span_append_stop hvalue (c := 13) (by decide) (10 :: rest)
  have hpadding : (32 :: (value ++ 13 :: 10 :: rest)).dropWhile isPadding =
      value ++ 13 :: 10 :: rest := by
    rw [List.dropWhile_cons_of_pos (by decide)]
    apply dropWhile_of_head?
    intro x hx
    rw [List.head?_append_of_ne_nil _ hempty] at hx
    exact hhead x hx
  have hisEmpty : name.isEmpty = false := by simpa using hne
  unfold header
  simp only [htake, hdrop, hisEmpty, hpadding, hdropValue, htakeValue, afterLine,
    trimEnd_of_getLast? hlast]

theorem headersFrom_cons {b rest : Bytes} {h : Header} (hline : afterLine b = none)
    (hheader : header b = some (h, rest)) (room : Nat) :
    headersFrom (room + 1) b = (headersFrom room rest).map (h :: ·) := by
  rw [headersFrom, hline]
  simp only [hheader]

theorem headersFrom_lineEnd (room : Nat) (rest : Bytes) :
    headersFrom room (lineEnd ++ rest) = some [] := by
  unfold headersFrom
  rfl

namespace Part

variable {boundary : Bytes} {p : Part}

/-- The headers of a part. -/
def headers (p : Part) : List Header :=
  ⟨"Content-Disposition", p.disposition⟩ ::
    match p.fileName with
    | none => []
    | some _ => [⟨"Content-Type", Bytes.ofAscii "application/octet-stream"⟩]

theorem disposition_isValue (h : p.IsPlain boundary) : ∀ x ∈ p.disposition, isValue x = true := by
  have hlead : ∀ x ∈ Bytes.ofAscii "form-data; name=\"", isValue x = true :=
    List.all_eq_true.1 (by decide)
  have hmiddle : ∀ x ∈ Bytes.ofAscii "; filename=\"", isValue x = true :=
    List.all_eq_true.1 (by decide)
  have hquote : ∀ x ∈ Bytes.ofAscii "\"", isValue x = true :=
    List.all_eq_true.1 (by decide)
  intro x hx
  unfold disposition at hx
  simp only [List.mem_append] at hx
  rcases hx with ((hx | hx) | hx) | hx
  · exact hlead x hx
  · exact h.name.isValue hx
  · exact hquote x hx
  · cases hf : p.fileName with
    | none => rw [hf] at hx; cases hx
    | some f =>
      rw [hf] at hx
      simp only [List.mem_append] at hx
      rcases hx with (hx | hx) | hx
      · exact hmiddle x hx
      · exact (h.fileName f hf).isValue hx
      · exact hquote x hx

theorem disposition_eq_cons (p : Part) : ∃ rest, p.disposition = 102 :: rest :=
  ⟨_, rfl⟩

theorem disposition_getLast? (p : Part) : p.disposition.getLast? = some 34 := by
  unfold disposition
  cases p.fileName with
  | none => rw [List.append_nil, List.getLast?_append]; rfl
  | some f => rw [List.getLast?_append, List.getLast?_append]; rfl

theorem header_disposition (h : p.IsPlain boundary) (rest : Bytes) :
    header (Bytes.ofAscii "Content-Disposition: " ++ p.disposition ++ (lineEnd ++ rest)) =
      some (⟨"Content-Disposition", p.disposition⟩, rest) := by
  obtain ⟨tail, htail⟩ := p.disposition_eq_cons
  have hlead : Bytes.ofAscii "Content-Disposition: " =
      Bytes.ofAscii "Content-Disposition" ++ [58, 32] := by decide
  have hname : ∀ x ∈ Bytes.ofAscii "Content-Disposition", isName x = true :=
    List.all_eq_true.1 (by decide)
  have hword : String.ofList ((Bytes.ofAscii "Content-Disposition").map fun x => Char.ofNat x.toNat) =
      "Content-Disposition" := by decide
  rw [hlead, ← hword, List.append_assoc, List.append_assoc]
  refine header_written (Bytes.ofAscii "Content-Disposition") (by decide) hname
    (disposition_isValue h) ?_ (by rw [htail]; simp) ?_ rest
  · intro x hx
    rw [htail] at hx
    obtain rfl := Option.some.inj hx
    rfl
  · intro x hx
    rw [disposition_getLast?] at hx
    obtain rfl := Option.some.inj hx
    rfl

theorem header_contentType (rest : Bytes) :
    header (Bytes.ofAscii "Content-Type: application/octet-stream" ++ (lineEnd ++ rest)) =
      some (⟨"Content-Type", Bytes.ofAscii "application/octet-stream"⟩, rest) := by
  have hlead : Bytes.ofAscii "Content-Type: application/octet-stream" =
      Bytes.ofAscii "Content-Type" ++ [58, 32] ++ Bytes.ofAscii "application/octet-stream" := by decide
  have hvalue : ∀ x ∈ Bytes.ofAscii "application/octet-stream", isValue x = true :=
    List.all_eq_true.1 (by decide)
  have hname : ∀ x ∈ Bytes.ofAscii "Content-Type", isName x = true :=
    List.all_eq_true.1 (by decide)
  have hword : String.ofList ((Bytes.ofAscii "Content-Type").map fun x => Char.ofNat x.toNat) =
      "Content-Type" := by decide
  rw [hlead, ← hword, List.append_assoc, List.append_assoc]
  refine header_written (Bytes.ofAscii "Content-Type") (by decide) hname hvalue ?_ (by decide) ?_ rest
  · intro x hx
    obtain rfl := Option.some.inj hx
    rfl
  · intro x hx
    obtain rfl := Option.some.inj hx
    rfl

/-- **The headers of a part are read as they are written.** -/
theorem headersFrom_head (h : p.IsPlain boundary) :
    headersFrom mostHeaders (p.head ++ lineEnd ++ lineEnd) = some p.headers := by
  unfold head headers
  cases p.fileName with
  | none =>
    have hfirst := header_disposition h (lineEnd ++ [])
    rw [List.append_nil, List.append_assoc (_ ++ _) lineEnd lineEnd]
    refine (headersFrom_cons rfl hfirst 31).trans ?_
    rw [headersFrom_lineEnd]
    rfl
  | some f =>
    have hsecond := header_contentType (lineEnd ++ [])
    have hfirst := header_disposition h
      (Bytes.ofAscii "Content-Type: application/octet-stream" ++ (lineEnd ++ (lineEnd ++ [])))
    have hall : Bytes.ofAscii "Content-Disposition: " ++ p.disposition ++
        (lineEnd ++ Bytes.ofAscii "Content-Type: application/octet-stream") ++ lineEnd ++ lineEnd =
        Bytes.ofAscii "Content-Disposition: " ++ p.disposition ++ (lineEnd ++
          (Bytes.ofAscii "Content-Type: application/octet-stream" ++
            (lineEnd ++ (lineEnd ++ [])))) := by
      simp only [List.append_assoc, List.append_nil]
    show headersFrom mostHeaders (Bytes.ofAscii "Content-Disposition: " ++ p.disposition ++
      (lineEnd ++ Bytes.ofAscii "Content-Type: application/octet-stream") ++ lineEnd ++ lineEnd) = _
    rw [hall]
    refine (headersFrom_cons rfl hfirst 31).trans ?_
    rw [headersFrom_cons rfl hsecond, headersFrom_lineEnd]
    rfl

/-! ### What the headers give -/

theorem last?_disposition (p : Part) :
    last? p.headers "content-disposition" = some p.disposition := by
  have hdisposition : (Text.asciiLower "Content-Disposition" == "content-disposition") = true := by
    decide
  have htype : (Text.asciiLower "Content-Type" == "content-disposition") = false := by decide
  unfold last? first? headers
  cases p.fileName with
  | none => simp [hdisposition]
  | some f => simp [hdisposition, htype]

theorem namesOf_headers (p : Part) :
    namesOf p.headers =
      ⟨attribute? "name" p.disposition, attribute? "filename" p.disposition⟩ := by
  unfold namesOf
  rw [last?_disposition]
  rfl

/-- The headers of a part give the name of an upload just if its field is `file`. -/
theorem upload?_namesOf (h : p.IsPlain boundary) :
    (namesOf p.headers).upload? = if p.name = "file" then p.fileName else none := by
  rw [namesOf_headers, attribute?_name h.name]
  unfold Names.upload?
  by_cases hfile : p.name = "file"
  · rw [if_pos (congrArg some hfile), if_pos hfile]
    cases hf : p.fileName with
    | none => exact attribute?_fileName_none hfile hf
    | some f => exact attribute?_fileName hfile hf (h.fileName f hf)
  · rw [if_neg fun hsome => hfile (Option.some.inj hsome), if_neg hfile]

theorem disposition_return_notMem (h : p.IsPlain boundary) : 13 ∉ p.disposition := by
  intro hmem
  have hvalue := disposition_isValue h 13 hmem
  exact absurd hvalue (by decide)

/-- The first empty line of a part is the one behind its headers. -/
theorem cut?_head (h : p.IsPlain boundary) (rest : Bytes) :
    Bytes.cut? (lineEnd ++ lineEnd) (p.head ++ lineEnd ++ lineEnd ++ rest) =
      some (p.head, rest) := by
  have hfirst : 13 ∉ Bytes.ofAscii "Content-Disposition: " ++ p.disposition := by
    rw [List.mem_append, not_or]
    exact ⟨by decide, disposition_return_notMem h⟩
  have hpass := Bytes.cut?_append_of_notMem [10, 13, 10] hfirst
  show Bytes.cut? [13, 10, 13, 10] _ = _
  unfold head
  cases p.fileName with
  | none =>
    rw [List.append_nil, List.append_assoc (_ ++ _ ++ lineEnd), List.append_assoc (_ ++ _), hpass]
    have hhere := Bytes.cut?_append_self [13, 10, 13, 10] rest
    show (Bytes.cut? [13, 10, 13, 10] ([13, 10, 13, 10] ++ rest)).map _ = _
    rw [hhere, Option.map_some, List.append_nil]
  | some f =>
    -- the line break in front of the second header is passed over as well
    have hsecond : 13 ∉ 10 :: Bytes.ofAscii "Content-Type: application/octet-stream" := by decide
    have hpassSecond := Bytes.cut?_append_of_notMem [10, 13, 10] hsecond
      ([13, 10, 13, 10] ++ rest)
    have hbreak := Bytes.cut?_cons [13, 10, 13, 10] 13
      (10 :: Bytes.ofAscii "Content-Type: application/octet-stream" ++ ([13, 10, 13, 10] ++ rest))
    rw [Bytes.cut?_append_self] at hpassSecond
    have hall : Bytes.ofAscii "Content-Disposition: " ++ p.disposition ++
        (lineEnd ++ Bytes.ofAscii "Content-Type: application/octet-stream") ++ lineEnd ++
          lineEnd ++ rest =
        Bytes.ofAscii "Content-Disposition: " ++ p.disposition ++
          (13 :: (10 :: Bytes.ofAscii "Content-Type: application/octet-stream" ++
            ([13, 10, 13, 10] ++ rest))) := by
      simp only [List.append_assoc]
      rfl
    show Bytes.cut? [13, 10, 13, 10] (Bytes.ofAscii "Content-Disposition: " ++ p.disposition ++
      (lineEnd ++ Bytes.ofAscii "Content-Type: application/octet-stream") ++ lineEnd ++
        lineEnd ++ rest) = _
    rw [hall, hpass, hbreak]
    show Option.map _ (Option.map _ (Bytes.cut? [13, 10, 13, 10] _)) = _
    rw [hpassSecond]
    simp [lineEnd]

/-- The headers of a part, and what follows the empty line behind them. -/
theorem announces (h : p.IsPlain boundary) (rest : Bytes) :
    Announces (p.head ++ lineEnd ++ lineEnd ++ rest) (namesOf p.headers) rest :=
  ⟨p.head, p.headers, .of_cut? (cut?_head h rest), headersFrom_head h, rfl⟩

end Part

end Cutout.Http.Multipart
