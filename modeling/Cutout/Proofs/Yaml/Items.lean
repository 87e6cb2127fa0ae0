import Cutout.Proofs.Yaml.Tokens

/-!
# The items of a written mapping

The tokens of an outline are the events of its keys, values and nested mappings (`Parser.Emits`), so that
the document of its lines has the items of the outline, no references and no faults
(`Document.ofText_lines`).
-/

namespace Cutout.Yaml

/-! ## Events and items -/

/-- An event that adds one item to a document and nothing else. -/
inductive Event.Shows : Event → Item → Prop
  | scalar (s : Scalar) : Shows (.scalar none s) (.scalar s)
  | mappingStart : Shows (.mappingStart Properties.none) .mappingStart
  | mappingEnd : Shows .mappingEnd .mappingEnd

namespace Document

/-- A document as far as it has been collected has these items, and no names. -/
structure Collection.Has (c : Collection) (is : List Item) : Prop where
  items : c.reversed.reverse.map (·.1) = is
  count : c.count = is.length
  targets : c.targets = []

theorem Collection.empty_has : Collection.empty.Has [] :=
  ⟨rfl, rfl, rfl⟩

theorem Collection.Has.push {c : Collection} {is : List Item} (h : c.Has is) (i : Item) (m : Mark) :
    (c.push i m).Has (is ++ [i]) :=
  ⟨by simp [Collection.push, ← h.items], by simp [Collection.push, h.count], h.targets⟩

end Document

namespace Parser

open Document

variable {p q r : Parser} {is js : List Item}

/-- From one place in a text to another there are these items. -/
def Emits (p : Parser) (is : List Item) (q : Parser) : Prop :=
  ∀ scanned fuel c hs, Collection.Has c hs →
    ∃ c', collect scanned (fuel + is.length) c p = collect scanned fuel c' q ∧ c'.Has (hs ++ is)

theorem Emits.refl (p : Parser) : p.Emits [] p :=
  fun _ _ c hs hc => ⟨c, rfl, by rwa [List.append_nil]⟩

theorem Emits.trans (h : p.Emits is q) (h' : q.Emits js r) : p.Emits (is ++ js) r := by
  intro scanned fuel c hs hc
  obtain ⟨c', hcollect, hc'⟩ := h scanned (fuel + js.length) c hs hc
  obtain ⟨c'', hcollect', hc''⟩ := h' scanned fuel c' (hs ++ is) hc'
  refine ⟨c'', ?_, by rwa [← List.append_assoc]⟩
  rw [← hcollect', ← hcollect, List.length_append, Nat.add_assoc, Nat.add_comm js.length]

theorem emits_one {e : Event} {i : Item} {m : Mark} (hstep : p.step = .ok (e, m, q))
    (he : e.Shows i) : p.Emits [i] q := by
  intro scanned fuel c hs hc
  refine ⟨c.push i m, ?_, hc.push i m⟩
  rw [List.length_singleton, collect, hstep]
  cases he <;> rfl

/-- What comes next is a matter of the next step. -/
theorem Emits.congr (h : q.Emits is r) (hne : is ≠ []) (hstep : p.step = q.step) :
    p.Emits is r := by
  intro scanned fuel c hs hc
  obtain ⟨c', hcollect, hc'⟩ := h scanned fuel c hs hc
  refine ⟨c', ?_, hc'⟩
  obtain ⟨k, hk⟩ := Nat.exists_eq_succ_of_ne_zero (mt List.length_eq_zero_iff.1 hne)
  rw [← hcollect, hk, Nat.add_succ, collect, collect, hstep]

/-! ## Nodes -/

variable {t u : Token} {ts : List Token} {pending : List Expectation} {opened : List Mark}
  {handles : List (Bytes × Bytes)} {e : Expectation} {s : Scalar}

/-- A scalar without a tag is a node. -/
theorem node_scalar {block indentless : Bool} {text : List Char} {style : ScalarStyle}
    (ht : t.kind = .scalar text style) :
    node block indentless ⟨t :: ts, e, pending, opened, handles⟩ =
      .ok (.scalar none ⟨none, text, style⟩, t.start, pop ⟨ts, e, pending, opened, handles⟩) := by
  simp [node, next, written, fullTag, ht, bind, Except.bind]

/-- A mapping is a node, and its beginning is looked at once more. -/
theorem node_mapping {indentless : Bool} (ht : t.kind = .blockMappingStart) :
    node true indentless ⟨t :: ts, e, pending, opened, handles⟩ =
      .ok (.mappingStart Properties.none, t.start,
        ⟨t :: ts, .blockMappingFirst, pending, opened, handles⟩) := by
  cases indentless <;>
    simp [node, next, written, fullTag, ht, bind, Except.bind, Properties.none, expect]

/-! ## Entries -/

theorem emits_key (ht : t.kind = .key) (hu : u.kind = s.token) (hs : s.tag = none) :
    Emits ⟨t :: u :: ts, .blockMappingKey, pending, opened, handles⟩ [.scalar s]
      ⟨ts, .blockMappingValue, pending, opened, handles⟩ := by
  obtain ⟨tag, text, style⟩ := s
  obtain rfl := hs
  have hnode : node true true ⟨u :: ts, .blockMappingKey, .blockMappingValue :: pending, opened,
      handles⟩ = _ := node_scalar hu
  refine emits_one (m := u.start) ?_ (.scalar _)
  simp only [step, blockMappingKey, next, ht, nodeUnless, hu, mappingStops, Scalar.token, defer]
  exact hnode

/-- The beginning of a mapping is passed over together with its first key. -/
theorem step_first {v : Token} (hv : v.kind = .key) (hu : u.kind = s.token) (hs : s.tag = none) :
    step ⟨t :: v :: u :: ts, .blockMappingFirst, pending, opened, handles⟩ =
      step ⟨v :: u :: ts, .blockMappingKey, pending, t.start :: opened, handles⟩ := by
  obtain ⟨tag, text, style⟩ := s
  obtain rfl := hs
  have hnode : ∀ e, node true true ⟨u :: ts, e, .blockMappingValue :: pending, t.start :: opened,
      handles⟩ = _ := fun _ => node_scalar hu
  simp only [step, enter, blockMappingKey, next, hv, nodeUnless, hu, mappingStops, Scalar.token, defer]
  exact (hnode .blockMappingFirst).trans (hnode .blockMappingKey).symm

theorem emits_value (ht : t.kind = .value) (hu : u.kind = s.token) (hs : s.tag = none) :
    Emits ⟨t :: u :: ts, .blockMappingValue, pending, opened, handles⟩ [.scalar s]
      ⟨ts, .blockMappingKey, pending, opened, handles⟩ := by
  obtain ⟨tag, text, style⟩ := s
  obtain rfl := hs
  have hnode : node true true ⟨u :: ts, .blockMappingValue, .blockMappingKey :: pending, opened,
      handles⟩ = _ := node_scalar hu
  refine emits_one (m := u.start) ?_ (.scalar _)
  simp only [step, blockMappingValue, next, ht, nodeUnless, hu, mappingStops, Scalar.token, defer]
  exact hnode

/-- A value that is left out is an empty scalar. -/
theorem emits_left_out (ht : t.kind = .value) (hu : u.kind ∈ mappingStops) :
    Emits ⟨t :: u :: ts, .blockMappingValue, pending, opened, handles⟩ [.scalar ⟨none, [], .plain⟩]
      ⟨u :: ts, .blockMappingKey, pending, opened, handles⟩ := by
  refine emits_one (m := t.stop) ?_ (.scalar _)
  have hstop : mappingStops.contains u.kind = true := List.contains_iff_mem.2 hu
  simp only [step, blockMappingValue, next, ht, nodeUnless, hstop, if_true]
  rfl

theorem emits_mappingStart (ht : t.kind = .value) (hu : u.kind = .blockMappingStart) :
    Emits ⟨t :: u :: ts, .blockMappingValue, pending, opened, handles⟩ [.mappingStart]
      ⟨u :: ts, .blockMappingFirst, .blockMappingKey :: pending, opened, handles⟩ := by
  have hnode : node true true ⟨u :: ts, .blockMappingValue, .blockMappingKey :: pending, opened,
      handles⟩ = _ := node_mapping hu
  refine emits_one (m := u.start) ?_ .mappingStart
  simp only [step, blockMappingValue, next, ht, nodeUnless, hu, mappingStops, defer]
  exact hnode

theorem emits_mappingEnd {m : Mark} (ht : t.kind = .blockEnd) :
    Emits ⟨t :: ts, .blockMappingKey, e :: pending, m :: opened, handles⟩ [.mappingEnd]
      ⟨ts, e, pending, opened, handles⟩ := by
  refine emits_one (m := t.start) ?_ .mappingEnd
  simp only [step, blockMappingKey, next, ht, close, pop, List.tail_cons]

/-! ## Outlines -/

theorem step_first_of_hasEntry {o : Outline} {ks : List TokenKind} (hentry : o.hasEntry = true)
    (hts : ts.map (·.kind) = o.tokens true ++ ks) :
    step ⟨t :: ts, .blockMappingFirst, pending, opened, handles⟩ =
      step ⟨ts, .blockMappingKey, pending, t.start :: opened, handles⟩ := by
  obtain ⟨key, ks', hkey⟩ := Outline.exists_key hentry
  rw [hkey] at hts
  obtain ⟨a, ts, rfl, ha, hts⟩ := List.map_eq_cons_iff.1 hts
  obtain ⟨k, ts, rfl, hk, -⟩ := List.map_eq_cons_iff.1 hts
  exact step_first ha hk key.word.tag_scalar

/-- The entries of an outline have its items. -/
theorem emits_outline (o : Outline) (pending : List Expectation) (opened : List Mark)
    {ks : List TokenKind} (hks : ∃ k ks', ks = k :: ks' ∧ k ∈ mappingStops)
    (hts : ts.map (·.kind) = o.tokens true ++ ks) :
    ∃ us, us.map (·.kind) = ks ∧
      Emits ⟨ts, .blockMappingKey, pending, opened, handles⟩ o.items
        ⟨us, .blockMappingKey, pending, opened, handles⟩ := by
  induction o generalizing ts ks pending opened with
  | done => exact ⟨ts, hts, .refl _⟩
  | filler f rest ih => exact ih pending opened hks hts
  | entry key apart value trail rest ih =>
    simp only [Outline.tokens, Outline.opening, if_true, List.nil_append, List.cons_append] at hts
    obtain ⟨a, ts, rfl, ha, hts⟩ := List.map_eq_cons_iff.1 hts
    obtain ⟨k, ts, rfl, hk, hts⟩ := List.map_eq_cons_iff.1 hts
    obtain ⟨c, ts, rfl, hc, hts⟩ := List.map_eq_cons_iff.1 hts
    obtain ⟨v, ts, rfl, hv, hts⟩ := List.map_eq_cons_iff.1 hts
    obtain ⟨us, hus, hrest⟩ := ih pending opened hks hts
    exact ⟨us, hus,
      ((emits_key ha hk key.word.tag_scalar).trans (emits_value hc hv value.tag_scalar)).trans hrest⟩
  | group key trail further inner rest ihinner ihrest =>
    simp only [Outline.tokens, Outline.opening, if_true, List.nil_append, List.cons_append,
      List.append_assoc] at hts
    obtain ⟨a, ts, rfl, ha, hts⟩ := List.map_eq_cons_iff.1 hts
    obtain ⟨k, ts, rfl, hk, hts⟩ := List.map_eq_cons_iff.1 hts
    obtain ⟨c, ts, rfl, hc, hts⟩ := List.map_eq_cons_iff.1 hts
    have hkey : Emits ⟨a :: k :: c :: ts, .blockMappingKey, pending, opened, handles⟩ [.scalar key.scalar]
        ⟨c :: ts, .blockMappingValue, pending, opened, handles⟩ := emits_key ha hk key.word.tag_scalar
    cases hentry : inner.hasEntry with
    | false =>
      -- no token stands for the value, so the one behind it has to tell that it is left out
      rw [(Outline.tokens_of_not_hasEntry hentry false).1, Outline.closing, hentry] at hts
      obtain ⟨x, ks', hx, hstop⟩ := rest.exists_stop hks
      obtain ⟨u, us, rfl, hu, -⟩ := List.map_eq_cons_iff.1 (hts.trans hx)
      obtain ⟨us', hus', hrest⟩ := ihrest pending opened hks hts
      refine ⟨us', hus', ?_⟩
      simpa [Outline.items, hentry] using
        (hkey.trans (emits_left_out hc (hu ▸ hstop))).trans hrest
    | true =>
      rw [Outline.tokens_of_hasEntry hentry, Outline.closing, hentry] at hts
      obtain ⟨u, us, rfl, hu, hts⟩ := List.map_eq_cons_iff.1 hts
      obtain ⟨vs, hvs, hinner⟩ := ihinner (.blockMappingKey :: pending)
        (u.start :: opened) ⟨.blockEnd, _, rfl, by decide⟩ hts
      obtain ⟨w, ws, rfl, hw, hws⟩ := List.map_eq_cons_iff.1 hvs
      obtain ⟨us', hus', hrest⟩ := ihrest pending opened hks hws
      have hmapping := (hinner.trans (emits_mappingEnd hw)).congr
        (p := ⟨u :: us, .blockMappingFirst, .blockMappingKey :: pending, opened, handles⟩)
        (by simp) (step_first_of_hasEntry hentry hts)
      refine ⟨us', hus', ?_⟩
      simpa [Outline.items, hentry] using
        ((hkey.trans (emits_mappingStart hc hu)).trans hmapping).trans hrest

/-- A mapping that begins a node has its items between the two ends. -/
theorem emits_mapping (t : Token) (e : Expectation) (pending : List Expectation) (opened : List Mark)
    (handles : List (Bytes × Bytes)) {o : Outline} {ks : List TokenKind} (hentry : o.hasEntry = true)
    (hts : ts.map (·.kind) = o.tokens true ++ .blockEnd :: ks) :
    ∃ us, us.map (·.kind) = ks ∧
      Emits ⟨t :: ts, .blockMappingFirst, e :: pending, opened, handles⟩ (o.items ++ [.mappingEnd])
        ⟨us, e, pending, opened, handles⟩ := by
  obtain ⟨us, hus, hemits⟩ := emits_outline o (e :: pending) (t.start :: opened)
    ⟨.blockEnd, ks, rfl, by decide⟩ hts
  obtain ⟨v, vs, rfl, hv, hvs⟩ := List.map_eq_cons_iff.1 hus
  exact ⟨vs, hvs, (hemits.trans (emits_mappingEnd hv)).congr (by simp)
    (step_first_of_hasEntry hentry hts)⟩

end Parser

/-! ## Documents -/

namespace Document

/-- The beginning of a text or a document adds nothing. -/
theorem collect_skip {scanned : Option GrammarFault} {fuel : Nat} {c : Collection} {p q : Parser}
    {e : Event} {m : Mark} (hstep : p.step = .ok (e, m, q))
    (he : e = .streamStart ∨ e = .documentStart) :
    collect scanned (fuel + 1) c p = collect scanned fuel c q := by
  rw [collect, hstep]
  rcases he with rfl | rfl <;> rfl

/-- The tokens of an outline are a document with the items of the outline, and nothing behind it. -/
theorem collect_tokens {o : Outline} {ts : List Token} {fuel : Nat}
    (hts : ts.map (·.kind) = .streamStart :: (o.tokens false ++ (o.closing ++ [.streamEnd])))
    (hfuel : o.items.length + 5 ≤ fuel) :
    ∃ c : Collection, collect none fuel Collection.empty (Parser.start ts) = c.document none false ∧
      c.Has o.document := by
  obtain ⟨a, ts, rfl, ha, hts⟩ := List.map_eq_cons_iff.1 hts
  obtain ⟨fuel, rfl⟩ := Nat.exists_eq_add_of_le hfuel
  have hstart : (Parser.start (a :: ts)).step =
      .ok (.streamStart, a.start, ⟨ts, .implicitDocument, [], [], []⟩) := by
    simp [Parser.start, Parser.step, Parser.next, ha, Parser.expect]
  cases hentry : o.hasEntry with
  | false =>
    rw [(Outline.tokens_of_not_hasEntry hentry false).1, Outline.closing, hentry] at hts
    obtain ⟨z, ts, rfl, hz, hts⟩ := List.map_eq_cons_iff.1 hts
    obtain rfl := List.map_eq_nil_iff.1 hts
    have hend : Parser.step ⟨[z], .implicitDocument, [], [], []⟩ =
        .ok (.streamEnd, z.start, ⟨[], .nothing, [], [], []⟩) := by
      simp [Parser.step, Parser.document, Parser.next, hz, Parser.expect]
    refine ⟨Collection.empty.push .nothing z.start, ?_, ?_⟩
    · rw [(Outline.tokens_of_not_hasEntry hentry false).2, List.length_nil,
        show 0 + 5 + fuel = fuel + 3 + 1 + 1 by omega, collect_skip hstart (.inl rfl), collect, hend]
      rfl
    · rw [Outline.document, hentry]
      exact Collection.empty_has.push .nothing z.start
  | true =>
    rw [Outline.tokens_of_hasEntry hentry, Outline.closing, hentry, if_pos rfl] at hts
    obtain ⟨u, us, rfl, hu, hus⟩ := List.map_eq_cons_iff.1 hts
    have hdocument : Parser.step ⟨u :: us, .implicitDocument, [], [], []⟩ =
        .ok (.documentStart, u.start,
          ⟨u :: us, .blockNode, [.documentEnd], [], Parser.standardHandles⟩) := by
      simp [Parser.step, Parser.document, Parser.next, hu, TokenKind.opensDocument, Parser.defer,
        Parser.expect]
    have hmapping := Parser.emits_one (p := ⟨u :: us, .blockNode, [.documentEnd], [],
      Parser.standardHandles⟩) (Parser.node_mapping hu) .mappingStart
    obtain ⟨vs, hvs, hitems⟩ := Parser.emits_mapping u .documentEnd [] [] Parser.standardHandles hentry hus
    obtain ⟨z, vs, rfl, hz, hvs⟩ := List.map_eq_cons_iff.1 hvs
    obtain rfl := List.map_eq_nil_iff.1 hvs
    obtain ⟨c, hcollect, hc⟩ := (hmapping.trans hitems) none (fuel + 1) Collection.empty []
      Collection.empty_has
    have hend : Parser.step ⟨[z], .documentEnd, [], [], Parser.standardHandles⟩ =
        .ok (.documentEnd, z.start, ⟨[z], .document, [], [], []⟩) := by
      simp [Parser.step, Parser.documentEnd, Parser.next, hz, Parser.expect]
    have hover : goesOn ⟨[z], .document, [], [], []⟩ = false := by
      simp [goesOn, Parser.step, Parser.document, Parser.next, hz]
    refine ⟨c, ?_, ?_⟩
    · rw [show o.items.length + 5 + fuel = o.items.length + 3 + fuel + 1 + 1 by omega,
        collect_skip hstart (.inl rfl), collect_skip hdocument (.inr rfl)]
      have hlength : fuel + 1 + ([Item.mappingStart] ++ (o.items ++ [Item.mappingEnd])).length =
          o.items.length + 3 + fuel := by
        simp only [List.length_append, List.length_cons, List.length_nil]
        omega
      rw [← hlength, hcollect, collect, hend]
      simp only [hover]
    · rw [Outline.document, hentry]
      exact hc

end Document

/-! ## Texts -/

namespace Document

/-- A text of characters that it may hold is scanned from its beginning on. -/
theorem ofText_of_isAllowed {cs : List Char} (h : ∀ x ∈ cs, isAllowed x = true) :
    ofText (String.ofList cs) = collect (scan cs).fault (8 * (scan cs).tokens.length + 8)
      Collection.empty (Parser.start (scan cs).tokens) := by
  have hmark : withoutMark cs = (cs, 0) := by
    unfold withoutMark
    split
    · next r => exact absurd (h _ List.mem_cons_self) (by decide)
    · rfl
  have hcontrol : ∀ n, firstControl n cs = none := by
    clear hmark
    induction cs with
    | nil => exact fun n => rfl
    | cons x cs ih =>
      intro n
      rw [firstControl, if_pos (h x List.mem_cons_self)]
      exact ih (fun y hy => h y (List.mem_cons_of_mem x hy)) _
  simp only [ofText, String.toList_ofList, hmark, hcontrol]

/-- The lines of an outline are read as a document with its items. -/
theorem ofText_lines (o : Outline) (n : Nat) :
    ((ofText (String.ofList (joined (o.lines n)))).items.map (·.1) = o.document) ∧
      (ofText (String.ofList (joined (o.lines n)))).targets = [] ∧
      (ofText (String.ofList (joined (o.lines n)))).fault = none ∧
      (ofText (String.ofList (joined (o.lines n)))).continued = false := by
  have hallowed : ∀ x ∈ joined (o.lines n), isAllowed x = true := by
    intro x hx
    rcases mem_joined hx with rfl | ⟨l, hl, hx⟩
    · decide
    · exact o.isAllowed n l hl x hx
  obtain ⟨tokens, hscan, htokens⟩ := Scanner.scan_lines o n
  have hlength := congrArg List.length htokens
  simp only [List.length_map, List.length_cons, List.length_append] at hlength
  have hitems := o.length_items_le false
  obtain ⟨c, hcollect, hc⟩ := collect_tokens htokens
    (show o.items.length + 5 ≤ 8 * tokens.length + 8 by omega)
  rw [ofText_of_isAllowed hallowed, hscan, hcollect]
  exact ⟨hc.items, hc.targets, rfl, rfl⟩

/-- A written block is read as a document with its items. -/
theorem ofText_chars (b : Block) :
    ((ofText (String.ofList (b.chars 0))).items.map (·.1) = b.document) ∧
      (ofText (String.ofList (b.chars 0))).targets = [] ∧
      (ofText (String.ofList (b.chars 0))).fault = none ∧
      (ofText (String.ofList (b.chars 0))).continued = false := by
  obtain ⟨o, hlines, hdocument⟩ := b.exists_lines
  rw [hlines, ← hdocument]
  exact ofText_lines o 0

end Document

end Cutout.Yaml
