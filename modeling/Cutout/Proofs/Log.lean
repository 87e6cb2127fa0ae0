import Cutout.Proofs.Startup
import Cutout.Proofs.Text.Lower
import Cutout.Proofs.Text.Number

/-!
# Levels as log filters

The level in the settings is read twice: as a threshold, which judges it, and as a filter, which logs by
it. The first reading takes a name in any letter case, the digits of a number, digits after a plus sign
and the empty text (`Threshold.parse?_eq_some_iff`). The second one agrees about names and digits. But no
directive begins with a plus sign, so that such a level passes the judgement and still ends the program;
and a filter without text has no directives and lets nothing through, where the threshold without a name
lets errors through.

Main result: `Startup.run_of_level`.
-/

namespace Cutout

namespace Threshold

/-! ## Ways to write a threshold -/

/-- How thresholds are written. -/
inductive Writes : List Char → Threshold → Prop
  | nothing : Writes [] (upTo .error)
  | name {cs : List Char} {t : Threshold} : cs ≠ [] →
      ofName? (Text.asciiLower (String.ofList cs)) = some t → Writes cs t
  | number {digits : List Char} {n : Nat} {t : Threshold} : Text.IsNumeral 64 digits n →
      ofNumber? n = some t → Writes digits t
  | signed {digits : List Char} {n : Nat} {t : Threshold} : Text.IsNumeral 64 digits n →
      ofNumber? n = some t → Writes ('+' :: digits) t

variable {s : String} {t : Threshold} {cs : List Char}

/-- A name is made of letters. -/
theorem isAlpha_of_ofName? {w : String} (h : ofName? w = some t) :
    ∀ c ∈ w.toList, c.isAlpha = true := by
  have hall : w.toList.all Char.isAlpha = true := by
    unfold ofName? at h
    split at h
    all_goals first | decide +kernel | cases h
  exact List.all_eq_true.1 hall

/-- The letters of a name in any letter case. -/
theorem isAlpha_of_name (h : ofName? (Text.asciiLower (String.ofList cs)) = some t) :
    ∀ c ∈ cs, c.isAlpha = true := by
  intro c hc
  have hmem : Text.asciiLowerChar c ∈ (Text.asciiLower (String.ofList cs)).toList := by
    rw [Text.asciiLower, String.toList_ofList, String.toList_ofList]
    exact List.mem_map_of_mem hc
  exact Text.isAlpha_of_asciiLowerChar (isAlpha_of_ofName? h _ hmem)

theorem natural?_of_isAlpha (hne : cs ≠ []) (h : ∀ c ∈ cs, c.isAlpha = true) :
    Text.natural? 64 cs = none := by
  obtain ⟨c, rest, rfl⟩ := List.exists_cons_of_ne_nil hne
  have hc : c.isAlpha = true := h c List.mem_cons_self
  rw [Option.eq_none_iff_forall_ne_some]
  intro n hn
  rcases Text.natural?_eq_some_iff.1 hn with hnumeral | ⟨digits, htext, -⟩
  · have hletter := Text.isAlpha_iff.1 hc
    obtain ⟨-, hle⟩ := Char.isDigit_iff_toNat.1 (hnumeral.isDigit c List.mem_cons_self)
    have hle : c.toNat ≤ 57 := hle
    omega
  · cases htext
    exact absurd hc (by decide)

/-- Every way of writing a threshold is read as it, and nothing else is read. -/
theorem parse?_eq_some_iff : parse? s = some t ↔ Writes s.toList t := by
  constructor
  · intro h
    unfold parse? at h
    split at h
    · next u hnumber =>
      cases h
      obtain ⟨n, hn, hthreshold⟩ := Option.bind_eq_some_iff.1 hnumber
      rcases Text.natural?_eq_some_iff.1 hn with hnumeral | ⟨digits, htext, hnumeral⟩
      · exact .number hnumeral hthreshold
      · rw [htext]
        exact .signed hnumeral hthreshold
    · rcases hs : s.toList with _ | ⟨c, cs⟩
      · obtain rfl : s = "" := String.toList_eq_nil_iff.1 hs
        cases h
        exact .nothing
      · refine .name (List.cons_ne_nil c cs) ?_
        rw [← hs, String.ofList_toList]
        exact h
  · intro h
    unfold parse?
    generalize hs : s.toList = cs at h
    cases h with
    | nothing =>
      obtain rfl : s = "" := String.toList_eq_nil_iff.1 hs
      rfl
    | name hne hname =>
      rw [natural?_of_isAlpha hne (isAlpha_of_name hname), Option.bind_none]
      rw [← hs, String.ofList_toList] at hname
      exact hname
    | number hnumeral hthreshold =>
      rw [Text.natural?_eq_some_iff.2 (.inl hnumeral), Option.bind_some, hthreshold]
    | signed hnumeral hthreshold =>
      rw [Text.natural?_eq_some_iff.2 (.inr ⟨_, rfl, hnumeral⟩), Option.bind_some, hthreshold]

/-- Without a plus sign it is written in letters or in digits. -/
theorem Writes.isAlphanum (h : Writes cs t) (hplus : cs.head? ≠ some '+') :
    ∀ c ∈ cs, c.isAlphanum = true := by
  intro c hc
  rw [Char.isAlphanum, Bool.or_eq_true]
  cases h with
  | nothing => exact absurd hc List.not_mem_nil
  | name _ hname => exact .inl (isAlpha_of_name hname c hc)
  | number hnumeral _ => exact .inr (hnumeral.isDigit c hc)
  | signed _ _ => exact absurd rfl hplus

/-- A plus sign stands before digits only. -/
theorem Writes.isDigit_of_plus (h : Writes ('+' :: cs) t) : ∀ c ∈ cs, c.isDigit = true := by
  cases h with
  | name _ hname => exact absurd (isAlpha_of_name hname '+' List.mem_cons_self) (by decide)
  | number hnumeral _ => exact absurd (hnumeral.isDigit '+' List.mem_cons_self) (by decide)
  | signed hnumeral _ => exact hnumeral.isDigit

end Threshold

/-! ## Words as directives -/

/-- Characters that neither are white space nor separate the directives or their parts. -/
structure Directive.IsInWord (c : Char) : Prop where
  notBlank : Text.isBlank c = false
  comma : c ≠ ','
  equals : c ≠ '='
  bracket : c ≠ '['

namespace Directive

variable {patterns : Patterns} {text : List Char} {t : Threshold}

theorem table_of_isAlphanum : ∀ n < 123, (Char.ofNat n).isAlphanum = true →
    isFirst (Char.ofNat n) = true ∧ Text.isBlank (Char.ofNat n) = false ∧ Char.ofNat n ≠ ',' ∧
      Char.ofNat n ≠ '=' ∧ Char.ofNat n ≠ '[' := by
  decide +kernel

theorem lt_of_isAlphanum {c : Char} (h : c.isAlphanum = true) : c.toNat < 123 := by
  rw [Char.isAlphanum, Bool.or_eq_true] at h
  rcases h with hletter | hdigit
  · have := Text.isAlpha_iff.1 hletter
    omega
  · obtain ⟨-, hle⟩ := Char.isDigit_iff_toNat.1 hdigit
    have hle : c.toNat ≤ 57 := hle
    omega

theorem isFirst_of_isAlphanum {c : Char} (h : c.isAlphanum = true) :
    isFirst c = true ∧ IsInWord c := by
  have htable := table_of_isAlphanum c.toNat (lt_of_isAlphanum h)
  rw [Char.ofNat_toNat] at htable
  obtain ⟨hfirst, hblank, hcomma, hequals, hbracket⟩ := htable h
  exact ⟨hfirst, hblank, hcomma, hequals, hbracket⟩

theorem trimBlank_eq_self {cs : List Char} (h : ∀ c ∈ cs, IsInWord c) : Text.trimBlank cs = cs := by
  have hkeep : ∀ ds : List Char, (∀ d ∈ ds, IsInWord d) → ds.dropWhile Text.isBlank = ds := by
    intro ds hds
    rcases ds with _ | ⟨d, ds⟩
    · rfl
    · rw [List.dropWhile_cons, (hds d List.mem_cons_self).notBlank, if_neg Bool.false_ne_true]
  have hreverse := hkeep cs.reverse fun d hd => h d (List.mem_reverse.1 hd)
  rw [Text.trimBlank, hkeep cs h, hreverse, List.reverse_reverse]

/-- Within a word nothing ends it. -/
theorem stepsFrom_word {cs : List Char} (h : ∀ c ∈ cs, IsInWord c) (place first : Nat)
    (d : Directive) : stepsFrom patterns text place cs (.word first, d) = .ok (.word first, d) := by
  induction cs generalizing place with
  | nil => rfl
  | cons c cs ih =>
    have hc := h c List.mem_cons_self
    have hstep : step patterns text place c (.word first, d) = .ok (.word first, d) := by
      simp only [step, if_neg hc.equals, if_neg hc.bracket]
    rw [stepsFrom, hstep]
    exact ih (fun x hx => h x (List.mem_cons_of_mem c hx)) (place + c.utf8Size)

/-- A word that is a threshold is a directive for everything. -/
theorem parse_of_isAlphanum (hne : text ≠ []) (hword : ∀ c ∈ text, c.isAlphanum = true)
    (h : Threshold.parse? (String.ofList text) = some t) :
    parse patterns text = .ok { empty with threshold := t } := by
  have htrim : Text.trimBlank text = text :=
    trimBlank_eq_self fun c hc => (isFirst_of_isAlphanum (hword c hc)).2
  obtain ⟨c, cs, rfl⟩ := List.exists_cons_of_ne_nil hne
  obtain ⟨hfirst, hin⟩ := isFirst_of_isAlphanum (hword c List.mem_cons_self)
  have hstart : step patterns (c :: cs) 0 c (.start, empty) = .ok (.word 0, empty) := by
    simp only [step, if_neg hin.bracket, if_pos hfirst]
  have hrest : stepsFrom patterns (c :: cs) (0 + c.utf8Size) cs (.word 0, empty) =
      .ok (.word 0, empty) :=
    stepsFrom_word (fun x hx => (isFirst_of_isAlphanum (hword x (List.mem_cons_of_mem c hx))).2)
      (0 + c.utf8Size) 0 empty
  have hwhole : behind (c :: cs) 0 = .ok (c :: cs) := by
    simp only [behind, cutAt?]
  unfold parse
  rw [htrim, stepsFrom, hstart]
  show (stepsFrom patterns (c :: cs) (0 + c.utf8Size) cs (.word 0, empty)).bind
    (conclude (c :: cs)) = _
  rw [hrest]
  show conclude (c :: cs) (.word 0, empty) = _
  simp only [conclude, hwhole, bind, Except.bind, h]
  rfl

/-- No directive begins with a plus sign. -/
theorem parse_of_plus {cs : List Char} (h : ∀ c ∈ cs, c.isDigit = true) :
    parse patterns ('+' :: cs) = .error .directive := by
  have hin : ∀ c ∈ '+' :: cs, IsInWord c := by
    intro c hc
    rcases List.mem_cons.1 hc with rfl | hc
    · exact ⟨by decide, by decide, by decide, by decide⟩
    · refine (isFirst_of_isAlphanum ?_).2
      rw [Char.isAlphanum, h c hc, Bool.or_true]
  have hstart : step patterns ('+' :: cs) 0 '+' (.start, empty) = .error .directive := by
    simp only [step, if_neg (by decide : ¬ '+' = '[')]
    rw [if_neg (by decide +kernel)]
  unfold parse
  rw [trimBlank_eq_self hin, stepsFrom, hstart]
  rfl

end Directive

/-! ## Filters of one threshold -/

namespace Filter

/-- The filter is nothing but a threshold: it has no targets, spans or fields, and what it lets through is
what the threshold does. -/
structure IsOnly (f : Filter) (t : Threshold) : Prop where
  plain : ∀ d ∈ f.directives, d.target = none ∧ d.span = none ∧ d.fields = []
  allows : ∀ e, f.allows e = t.allows e.level

variable {patterns : Patterns} {s : String} {t : Threshold}

theorem isOnly_single (t : Threshold) : IsOnly ⟨[{ Directive.empty with threshold := t }]⟩ t := by
  refine ⟨fun d hd => ?_, fun e => rfl⟩
  rw [List.mem_singleton.1 hd]
  exact ⟨rfl, rfl, rfl⟩

theorem isOnly_nil : IsOnly ⟨[]⟩ .off :=
  ⟨fun _ hd => absurd hd List.not_mem_nil, fun _ => rfl⟩

/-- A text without commas is one directive. -/
theorem parse_of_notMem {cs : List Char} (hs : s.toList = cs) (hne : cs ≠ []) (h : ',' ∉ cs) :
    parse s patterns = (Directive.parse patterns cs).map fun d => ⟨[d]⟩ := by
  have hpiece : (Text.pieces ',' s.toList).filter (fun piece => !piece.isEmpty) = [cs] := by
    rw [hs, Text.pieces_of_notMem h]
    obtain ⟨c, rest, rfl⟩ := List.exists_cons_of_ne_nil hne
    rfl
  unfold parse
  rw [hpiece, List.mapM_cons]
  cases Directive.parse patterns cs <;> rfl

/-- A threshold without a plus sign is a filter; without a text it lets nothing through. -/
theorem exists_parse_of_writes (h : Threshold.parse? s = some t) (hplus : s.toList.head? ≠ some '+') :
    ∃ f, parse s patterns = .ok f ∧ f.IsOnly (if s = "" then .off else t) := by
  have halnum := (Threshold.parse?_eq_some_iff.1 h).isAlphanum hplus
  by_cases hs : s = ""
  · subst hs
    exact ⟨⟨[]⟩, rfl, isOnly_nil⟩
  · have hne : s.toList ≠ [] := fun hnil => hs (String.toList_eq_nil_iff.1 hnil)
    have hcomma : ',' ∉ s.toList := fun hc => absurd (halnum ',' hc) (by decide)
    rw [if_neg hs]
    refine ⟨_, ?_, isOnly_single t⟩
    rw [parse_of_notMem rfl hne hcomma, Directive.parse_of_isAlphanum hne halnum]
    · rfl
    · rw [String.ofList_toList]
      exact h

/-- A threshold after a plus sign is no filter. -/
theorem parse_of_plus (h : Threshold.parse? s = some t) (hplus : s.toList.head? = some '+') :
    parse s patterns = .error .directive := by
  obtain ⟨cs, hs⟩ := List.head?_eq_some_iff.1 hplus
  have hdigits : ∀ c ∈ cs, c.isDigit = true := by
    have hwrites := Threshold.parse?_eq_some_iff.1 h
    rw [hs] at hwrites
    exact hwrites.isDigit_of_plus
  have hcomma : ',' ∉ '+' :: cs := by
    intro hc
    rcases List.mem_cons.1 hc with hc | hc
    · exact absurd hc (by decide)
    · exact absurd (hdigits ',' hc) (by decide)
  rw [parse_of_notMem hs (List.cons_ne_nil '+' cs) hcomma, Directive.parse_of_plus hdigits]
  rfl

end Filter

/-! ## Start -/

namespace Startup

/-- A start with these settings, where the environment gives no log filter and the settings this level. -/
structure TakesLevel (l : Launch) (x : Settings) (level : String) : Prop where
  environment : l.logFilter = none
  settings : Settings.load l.settingsFile l.modelPath = .ok x
  level : x.server.logs.level = level

variable {read : FilterReader} {l : Launch} {x : Settings} {s : String} {t : Threshold}

theorem TakesLevel.prepare_eq (hl : TakesLevel l x s) (h : Threshold.parse? s = some t) :
    prepare l read = ((read s).mapError (.logFilter s)).bind fun filter => .ok ⟨x, s, filter⟩ := by
  obtain ⟨henv, hload, rfl⟩ := hl
  have hprepare : prepare l read = _ := prepare_of_load hload
  rw [hprepare, (FiltersBy.settings henv h).filterText_eq]
  rfl

/-- **Levels as log filters.** A level in the settings that is a threshold, and that has a text and no
plus sign, is as a filter this threshold and nothing else: the start goes on with it, and what is logged
is what the threshold lets through. Without a text the start goes on as well, but nothing is logged. After
a plus sign the level is no filter, so that the start ends with a complaint about it. The library of
patterns plays no part in this. -/
theorem run_of_level (patterns : Patterns) (s : String) (t : Threshold)
    (h : Threshold.parse? s = some t) :
    let read : FilterReader := fun text => Filter.parse text patterns
    (s.toList.head? ≠ some '+' →
      let u : Threshold := if s = "" then .off else t
      ∃ f, Filter.parse s patterns = .ok f ∧ f.IsOnly u ∧ ∀ l x, TakesLevel l x s →
        prepare l read = .ok ⟨x, s, f⟩ ∧ ∀ w,
          (run w l read).result = (Server.start w x).result.mapError .server ∧
          (run w l read).log = (hello x.model.name s :: (Server.start w x).log).filter
            fun e => u.allows e.level) ∧
      (s.toList.head? = some '+' →
        Filter.parse s patterns = .error .directive ∧ ∀ l x, TakesLevel l x s → ∀ w,
          run w l read = ⟨[], .error (.logFilter s .directive)⟩) := by
  intro read
  constructor
  · intro hplus u
    obtain ⟨f, hparse, honly⟩ : ∃ f, Filter.parse s patterns = .ok f ∧ f.IsOnly u :=
      Filter.exists_parse_of_writes h hplus
    refine ⟨f, hparse, honly, fun l x hl => ?_⟩
    have hprepare : prepare l read = .ok ⟨x, s, f⟩ := by
      have hread : read s = .ok f := hparse
      rw [hl.prepare_eq h, hread]
      rfl
    have hallows : f.allows = fun e => u.allows e.level := funext honly.allows
    refine ⟨hprepare, fun w => ?_⟩
    unfold run
    rw [hprepare]
    refine ⟨rfl, ?_⟩
    show (hello x.model.name s :: (Server.start w x).log).filter f.allows = _
    rw [hallows]
  · intro hplus
    have hparse : Filter.parse s patterns = .error .directive := Filter.parse_of_plus h hplus
    refine ⟨hparse, fun l x hl w => run_of_prepare_error ?_ w⟩
    have hread : read s = .error .directive := hparse
    rw [hl.prepare_eq h, hread]
    rfl

/-- A start with these settings in its file, and nothing in its environment. -/
def plainly (text : String) : Launch :=
  ⟨some (Bytes.ofText text), none, none⟩

theorem takesLevel_plainly {text : String} {x : Settings} (h : Settings.parse text = .ok x)
    (hflaw : x.flaw? = none) : TakesLevel (plainly text) x x.server.logs.level :=
  ⟨rfl, Settings.load_of_text h hflaw none, rfl⟩

/-- Warnings are let through, and the greeting is not. Without a text even errors are not. -/
theorem run_of_level_warn :
    let o := run (withoutCutters fun _ => none)
      (plainly "server: \x7blogs: \x7blevel: WaRn\x7d\x7d\n")
    o.log = [] ∧
      o.result = .error (.server (.settings
        "no segmenter backend compiled in; rebuild with the `onnx` feature")) ∧
      (∃ f, Filter.parse "WaRn" = .ok f ∧ f.allows ⟨.warn, "", ""⟩ = true ∧
        f.allows ⟨.info, "", ""⟩ = false) ∧
      ∃ f, Filter.parse "" = .ok f ∧ f.allows ⟨.error, "", ""⟩ = false := by
  intro o
  have hload : Settings.parse "server: \x7blogs: \x7blevel: WaRn\x7d\x7d\n" =
      .ok { server := { logs := ⟨"WaRn"⟩ } } := eq_ok_of_toOption (by decide +kernel)
  have hlevel : Threshold.parse? "WaRn" = some (.upTo .warn) := by decide
  have htakes := takesLevel_plainly hload (by decide)
  obtain ⟨f, hparse, honly, hstart⟩ := (run_of_level .all "WaRn" _ hlevel).1 (by decide)
  obtain ⟨hresult, hlog⟩ := (hstart _ _ htakes).2 (withoutCutters fun _ => none)
  obtain ⟨g, hempty, hnone, -⟩ := (run_of_level .all "" (.upTo .error) (by decide)).1 (by decide)
  refine ⟨hlog.trans (by decide +kernel), hresult.trans rfl, ⟨f, hparse, ?_, ?_⟩, g,
    hempty, ?_⟩
  · rw [honly.allows]
    decide
  · rw [honly.allows]
    decide
  · rw [hnone.allows]
    decide

/-- Not every level that is a threshold is a filter for it: a number after a plus sign is no filter at
all and ends the start, and no text is a filter that keeps errors back. -/
theorem not_isOnly_of_level :
    (¬ ∀ s t, Threshold.parse? s = some t → ∃ f, Filter.parse s = .ok f ∧ f.IsOnly t) ∧
      Threshold.parse? "+3" = some (.upTo .info) ∧
      (run (withoutCutters fun _ => none)
        (plainly "server: \x7blogs: \x7blevel: '+3'\x7d\x7d\n")).complaint =
          "Invalid log filter '+3': invalid filter directive\n" ∧
      Threshold.parse? "" = some (.upTo .error) ∧
      Filter.parse "" = .ok ⟨[]⟩ ∧ (⟨[]⟩ : Filter).allows ⟨.error, "", ""⟩ = false := by
  have hthreshold : Threshold.parse? "+3" = some (.upTo .info) := by decide
  refine ⟨fun hall => ?_, hthreshold, by decide +kernel, by decide, rfl, rfl⟩
  obtain ⟨f, hparse, -⟩ := hall "+3" _ hthreshold
  rw [Filter.parse_of_plus hthreshold (by decide)] at hparse
  cases hparse

end Startup

end Cutout
