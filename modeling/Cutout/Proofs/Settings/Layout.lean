import Cutout.Proofs.Yaml.Items
import Cutout.Proofs.Yaml.Place
import Cutout.Settings

/-!
# Settings and their layout

Lines without content say nothing: a text that has no other lines gives the settings that no text at all
gives, and settings written line by line stay as they are wherever such lines are put in
(`Settings.parse_layout`). What else is on the lines is free: names that no setting has, values that are
none, keys that come twice. What could not be read before cannot be read with more lines either.
-/

namespace Cutout

open Yaml

namespace Yaml

/-! ## Texts without entries -/

theorem Outline.mem_lines_of_hasEntry {o : Outline} (h : o.hasEntry = true) (n : Nat) :
    ∃ l ∈ o.lines n, ':' ∈ l := by
  induction o with
  | done => cases h
  | filler f rest ih =>
    obtain ⟨l, hl, hcolon⟩ := ih h
    exact ⟨l, List.mem_cons_of_mem _ hl, hcolon⟩
  | entry key apart value trail rest _ => exact ⟨_, List.mem_cons_self, by simp⟩
  | group key trail further inner rest _ _ => exact ⟨_, List.mem_cons_self, by simp⟩

/-- A text of white space has no entries. -/
theorem Outline.hasEntry_of_isAllBlank {o : Outline} {n : Nat}
    (h : Text.isAllBlank (String.ofList (joined (o.lines n))) = true) : o.hasEntry = false := by
  rw [Bool.eq_false_iff]
  intro hentry
  obtain ⟨l, hl, hcolon⟩ := mem_lines_of_hasEntry hentry n
  have hmem : ':' ∈ '\n' :: joined (o.lines n) :=
    cons_joined (List.ne_nil_of_mem hl) ▸
      List.mem_flatMap.2 ⟨l, hl, List.mem_cons_of_mem '\n' hcolon⟩
  have hmem : ':' ∈ joined (o.lines n) := (List.mem_cons.1 hmem).resolve_left (by decide)
  rw [Text.isAllBlank, String.toList_ofList] at h
  exact absurd (List.all_eq_true.1 h ':' hmem) (by decide)

namespace Record

variable {α : Type} (r : Record α)

/-- Lines without an entry give the record that nothing gives. -/
theorem ofText_of_not_hasEntry {o : Outline} (h : o.hasEntry = false) (n : Nat) :
    r.ofText (String.ofList (joined (o.lines n))) = .ok r.blank := by
  obtain ⟨hitems, -, hfault, hcontinued⟩ := Document.ofText_lines o n
  rw [Outline.document, h] at hitems
  obtain ⟨⟨i, m⟩, rest, hcons, rfl, hrest⟩ := List.map_eq_cons_iff.1 hitems
  have hread : r.read (Document.ofText (String.ofList (joined (o.lines n)))) []
      (Document.ofText (String.ofList (joined (o.lines n)))).items = .ok (r.blank, rest) := by
    rw [hcons]
    rfl
  simp only [ofText, hread, hfault, hcontinued]
  rfl

/-- With lines without content put in, the same record is read, or still none. -/
theorem toOption_ofText_of_inserts (h : ∀ m ∈ r.members, Reader.Agree m.read m.read) {o : Outline}
    {n : Nat} {ls : List (List Char)} (hls : Inserts (o.lines n) ls) :
    (r.ofText (String.ofList (joined ls))).toOption =
      (r.ofText (String.ofList (joined (o.lines n)))).toOption := by
  obtain ⟨o', rfl, hitems, hentry⟩ := o.exists_of_inserts hls
  have hdocument : o'.document = o.document := by
    rw [Outline.document, Outline.document, hitems, hentry]
  obtain ⟨hread', htargets', hfault', hcontinued'⟩ := Document.ofText_lines o' n
  obtain ⟨hread, htargets, hfault, hcontinued⟩ := Document.ofText_lines o n
  exact toOption_ofText h ⟨hread'.trans (hdocument.trans hread.symm), htargets'.trans htargets.symm⟩
    hfault' hfault hcontinued' hcontinued

end Record

end Yaml

/-! ## Settings -/

section Records

open Reader

theorem LogSettings.agree_members : ∀ m ∈ LogSettings.record.members, Agree m.read m.read := by
  intro m hm
  simp only [LogSettings.record, List.mem_singleton] at hm
  subst hm
  exact Agree.member (agree_ofScalar _ _)

theorem ServerSettings.agree_members : ∀ m ∈ ServerSettings.record.members, Agree m.read m.read := by
  intro m hm
  simp only [ServerSettings.record, List.mem_cons, List.not_mem_nil, or_false] at hm
  rcases hm with rfl | rfl | rfl | rfl
  · exact Agree.member (agree_ofScalar _ _)
  · exact Agree.member (agree_ofScalar _ _)
  · exact Agree.member (agree_ofScalar _ _)
  · exact Agree.member (Record.agree_read LogSettings.agree_members)

theorem ModelSettings.agree_members : ∀ m ∈ ModelSettings.record.members, Agree m.read m.read := by
  intro m hm
  simp only [ModelSettings.record, List.mem_cons, List.not_mem_nil, or_false] at hm
  rcases hm with rfl | rfl | rfl | rfl | rfl
  · exact Agree.member (agree_ofScalar _ _)
  · exact Agree.member (Agree.optional (agree_ofScalar _ _))
  · exact Agree.member (agree_ofScalar _ _)
  · exact Agree.member (agree_ofScalar _ _)
  · exact Agree.member (Agree.optional (agree_ofScalar _ _))

theorem Settings.agree_members : ∀ m ∈ Settings.record.members, Agree m.read m.read := by
  intro m hm
  simp only [Settings.record, List.mem_cons, List.not_mem_nil, or_false] at hm
  rcases hm with rfl | rfl
  · exact Agree.member (Record.agree_read ServerSettings.agree_members)
  · exact Agree.member (Record.agree_read ModelSettings.agree_members)

end Records

namespace Settings

/-- Lines are read as settings whether or not there is anything but white space. -/
theorem parse_lines (o : Outline) (n : Nat) :
    parse (String.ofList (joined (o.lines n))) =
      (record.ofText (String.ofList (joined (o.lines n)))).mapError .yaml := by
  unfold parse
  split
  · next hblank =>
    rw [record.ofText_of_not_hasEntry (Outline.hasEntry_of_isAllBlank hblank)]
    rfl
  · cases record.ofText (String.ofList (joined (o.lines n))) <;> rfl

theorem toOption_parse_lines (o : Outline) (n : Nat) :
    (parse (String.ofList (joined (o.lines n)))).toOption =
      (record.ofText (String.ofList (joined (o.lines n)))).toOption := by
  rw [parse_lines]
  cases record.ofText (String.ofList (joined (o.lines n))) <;> rfl

/-- Lines without content alone give the settings that no text gives, and settings stay as they are with
such lines put in before, between and behind their own. -/
theorem parse_layout :
    (∀ fs : List Filler, parse (String.ofList (joined (fs.map Filler.line))) = .ok {}) ∧
      parse "" = .ok {} ∧
      ∀ (o : Outline) (n : Nat) (ls : List (List Char)), Inserts (o.lines n) ls →
        (parse (String.ofList (joined ls))).toOption =
          (parse (String.ofList (joined (o.lines n)))).toOption := by
  have hblank : ∀ fs : List Filler, parse (String.ofList (joined (fs.map Filler.line))) = .ok {} := by
    intro fs
    have hlines : fs.map Filler.line = (Outline.done.behind fs).lines 0 := by
      rw [Outline.lines_behind, Outline.lines, List.append_nil]
    rw [hlines, parse_lines, record.ofText_of_not_hasEntry Outline.hasEntry_behind]
    rfl
  refine ⟨hblank, hblank [], fun o n ls hls => ?_⟩
  obtain ⟨o', rfl, -⟩ := o.exists_of_inserts hls
  rw [toOption_parse_lines, toOption_parse_lines]
  exact record.toOption_ofText_of_inserts agree_members hls

/-- A port under the key of the server, and the same with blank lines and comments around it. -/
theorem parse_layout_of_port :
    Inserts ["server:".toList, "  port: 8080".toList]
        ["# local".toList, "server:".toList, [], "    # of the proxy".toList, "  port: 8080".toList, []] ∧
      (parse "# local\nserver:\n\n    # of the proxy\n  port: 8080\n").toOption =
        (parse "server:\n  port: 8080").toOption ∧
      (parse "server:\n  port: 8080").toOption = some { server := { port := 8080 } } := by
  have hlines : Inserts ["server:".toList, "  port: 8080".toList]
      ["# local".toList, "server:".toList, [], "    # of the proxy".toList, "  port: 8080".toList, []] :=
    .filler ⟨0, some " local", by decide⟩ <| .keep _ <| .filler ⟨0, none, rfl⟩ <|
      .filler ⟨4, some " of the proxy", by decide⟩ <| .keep _ <| .filler ⟨0, none, rfl⟩ .nil
  obtain ⟨o, ho⟩ : ∃ o : Outline, o.lines 0 = ["server:".toList, "  port: 8080".toList] :=
    ⟨(Block.group ⟨"server", by decide +kernel⟩ 1
      (.line ⟨"port", by decide +kernel⟩ (.number 8080) .done) .done).outline, by decide +kernel⟩
  have htext : String.ofList (joined ["server:".toList, "  port: 8080".toList]) =
      "server:\n  port: 8080" := by decide +kernel
  have htext' : String.ofList (joined ["# local".toList, "server:".toList, [],
      "    # of the proxy".toList, "  port: 8080".toList, []]) =
      "# local\nserver:\n\n    # of the proxy\n  port: 8080\n" := by decide +kernel
  have hsame := parse_layout.2.2 o 0 _ (ho ▸ hlines)
  rw [ho, htext, htext'] at hsame
  exact ⟨hlines, hsame, by decide +kernel⟩

end Settings

end Cutout
