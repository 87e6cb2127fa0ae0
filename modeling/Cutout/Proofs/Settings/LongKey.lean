import Cutout.Proofs.Settings.Written

/-!
# Keys that are too long

A word of more than 1024 characters is no key, whatever stands behind it: the colon finds nothing that it
could be a key for, and the text is refused (`Settings.parse_long_key`).
-/

namespace Cutout

open Yaml

namespace Yaml.Scanner

variable {x : Char} {w r : List Char} {m : Mark} {reversed : List Token} {stack : List Nat}

/-- A token that has got too long is dropped where nothing but a key can stand no more. -/
theorem refresh_atColon_of_long {t : Token} {n : Nat} (hn : 1024 < n) :
    (atColon ⟨r, t.start.right n⟩ t false reversed stack).refresh =
      .ok (quiet false r (t.start.right n) (t :: reversed) stack) := by
  simp [refresh, freshKey, outlived, bind, Except.bind, pure, Except.pure, atColon, hn, quiet]

/-- A colon behind nothing that could be a key is refused in the middle of a line. -/
theorem step_colon (hr : gapAt r = true) :
    (quiet false (':' :: r) m reversed []).step = .error ⟨.valueNotAllowed, m, none⟩ := by
  have hnext : (quiet false (':' :: r) m reversed []).toNextToken
      ((quiet false (':' :: r) m reversed []).cursor.rest.length + 1) =
      quiet false (':' :: r) m reversed [] :=
    toNextToken_spacing .none rfl rfl (by decide) (by decide) (by decide)
  rw [step_of_next_within hnext (refresh_of_none rfl rfl) rfl rfl (by simp [quiet])]
  simp [tokenAt, quiet, Cursor.atMarker, hr, valueMark, openEntry, inFlow, bind, Except.bind]

/-- The word is the only token of a text that begins with it and a colon. -/
theorem scan_long_word (hw : ∀ z ∈ x :: w, isNameChar z = true) (hlong : 1024 < (x :: w).length)
    (hr : gapAt r = true) :
    ∃ a b f, scan (x :: w ++ ':' :: r) = ⟨[a, b], some f⟩ ∧ a.kind = .streamStart ∧
      b.kind = .scalar (x :: w) .plain := by
  have hx : isNameChar x = true := hw x List.mem_cons_self
  have hbare : IsBare (x :: w) := ⟨_, .inl rfl, List.cons_ne_nil x w, hw⟩
  have hholds : (Scanner.start (x :: w ++ ':' :: r)).Holds (some 0) [] [.streamStart] :=
    holds_of_le (by simp [start])
  have hlead : lead false 0 (x :: w ++ ':' :: r) = (0, x :: w ++ ':' :: r) :=
    lead_here (isBreak_of_isNameChar hx) (ne_of_isNameChar hx (by decide))
      (ne_of_isNameChar hx (by decide))
  obtain ⟨m, reversed, -, hkinds, hstep⟩ := (between_start (x :: w ++ ':' :: r)).step_eq hlead rfl hholds
  obtain ⟨a, hreversed, ha⟩ := List.map_eq_singleton_iff.1 hkinds
  obtain rfl : reversed = [a] := List.reverse_eq_iff.1 hreversed
  have hword : (quiet true (x :: w ++ ':' :: r) m [a] []).tokenAt x =
      .ok (atColon ⟨':' :: r, m.right (x :: w).length⟩
        ⟨.scalar (x :: w) .plain, m, m.right (x :: w).length⟩ false [a] []) :=
    tokenAt_bare .none hbare.isPlain hr (atDocumentMarker_of_isNameChar hx) (by simp)
  rw [hword, Except.bind, refresh_atColon_of_long
    (t := ⟨.scalar (x :: w) .plain, m, m.right (x :: w).length⟩) hlong] at hstep
  refine ⟨a, ⟨.scalar (x :: w) .plain, m, m.right (x :: w).length⟩,
    ⟨.valueNotAllowed, m.right (x :: w).length, none⟩, ?_, ha, rfl⟩
  have hend : (quiet false (':' :: r) (m.right (x :: w).length)
      [⟨.scalar (x :: w) .plain, m, m.right (x :: w).length⟩, a] []).hasEnded = false := rfl
  obtain ⟨fuel, hfuel⟩ : ∃ fuel, (x :: w ++ ':' :: r).length + 2 = fuel + 1 + 1 := ⟨_, rfl⟩
  rw [scan, hfuel, goes_one hstep hend (fuel + 1), finish, step_colon hr]
  rfl

end Yaml.Scanner

namespace Yaml.Document

/-- A text whose only token is a scalar has this scalar as its only item, and a fault behind it. -/
theorem collect_scalar {a b : Token} {w : List Char} {f : GrammarFault} (fuel : Nat)
    (ha : a.kind = .streamStart) (hb : b.kind = .scalar w .plain) :
    collect (some f) (fuel + 4) Collection.empty (Parser.start [a, b]) =
      ⟨[(.scalar ⟨none, w, .plain⟩, b.start)], [], some (.grammar f), false⟩ := by
  have hstart : (Parser.start [a, b]).step = .ok (.streamStart, a.start,
      ⟨[b], .implicitDocument, [], [], []⟩) := by
    simp [Parser.start, Parser.step, Parser.next, ha, Parser.expect]
  have hdocument : Parser.step ⟨[b], .implicitDocument, [], [], []⟩ =
      .ok (.documentStart, b.start, ⟨[b], .blockNode, [.documentEnd], [], Parser.standardHandles⟩) := by
    simp [Parser.step, Parser.document, Parser.next, hb, TokenKind.opensDocument, Parser.defer,
      Parser.expect]
  have hscalar : Parser.step ⟨[b], .blockNode, [.documentEnd], [], Parser.standardHandles⟩ =
      .ok (.scalar none ⟨none, w, .plain⟩, b.start,
        ⟨[], .documentEnd, [], [], Parser.standardHandles⟩) :=
    Parser.node_scalar hb
  rw [collect_skip hstart (.inl rfl), collect_skip hdocument (.inr rfl), collect, hscalar]
  rfl

end Yaml.Document

namespace Settings

/-- Settings that begin with a key of more than 1024 characters are refused. -/
theorem parse_long_key {k r : List Char} {y : Char} (hk : ∀ x ∈ k, isNameChar x = true)
    (hlong : 1024 < k.length) (hy : (isSpace y || isBreak y) = true)
    (hr : ∀ x ∈ y :: r, Document.isAllowed x = true) :
    ∃ f, parse (String.ofList (k ++ ':' :: y :: r)) = .error (.yaml f) := by
  obtain ⟨x, w, rfl⟩ := List.exists_cons_of_length_pos (Nat.zero_lt_of_lt hlong)
  obtain ⟨a, b, f, hscan, ha, hb⟩ := Scanner.scan_long_word (r := y :: r) hk hlong hy
  have hallowed : ∀ z ∈ x :: w ++ ':' :: y :: r, Document.isAllowed z = true := by
    rw [List.forall_mem_append, List.forall_mem_cons (a := ':')]
    exact ⟨fun z hz => isAllowed_of_isNameChar (hk z hz), by decide, hr⟩
  have hdocument : Document.ofText (String.ofList (x :: w ++ ':' :: y :: r)) =
      ⟨[(.scalar ⟨none, x :: w, .plain⟩, b.start)], [], some (.grammar f), false⟩ := by
    rw [Document.ofText_of_isAllowed hallowed, hscan]
    exact Document.collect_scalar 20 ha hb
  have hblank : Text.isAllBlank (String.ofList (x :: w ++ ':' :: y :: r)) = false := by
    rw [Text.isAllBlank, String.toList_ofList, List.cons_append, List.all_cons,
      isBlank_of_isNameChar (hk x List.mem_cons_self), Bool.false_and]
  rw [parse, hblank, if_neg Bool.false_ne_true, Record.ofText, hdocument]
  exact ⟨_, rfl⟩

/-- A key of 1025 letters that is no key of the settings is not passed over. -/
theorem parse_of_1025_letters :
    (∀ x ∈ List.replicate 1025 'a', x.isAlphanum = true) ∧
      (∀ k, (vocabulary.name k).text.toList ≠ List.replicate 1025 'a') ∧
      ∃ f, parse (String.ofList (List.replicate 1025 'a' ++ ": true\n".toList)) =
        .error (.yaml f) := by
  refine ⟨fun x hx => ?_, fun k hk => ?_, ?_⟩
  · rw [List.eq_of_mem_replicate hx]
    decide
  · have hshort := (vocabulary.name k).length_le
    rw [hk, List.length_replicate] at hshort
    omega
  · refine parse_long_key (y := ' ') (r := "true\n".toList) (fun x hx => ?_) ?_ (by decide)
      (List.all_eq_true.1 (by decide))
    · rw [List.eq_of_mem_replicate hx]
      decide +kernel
    · rw [List.length_replicate]
      omega

end Settings

end Cutout
