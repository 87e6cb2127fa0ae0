import Cutout.Yaml.Record

/-!
# Values apart from their places

Where something stands in a text matters to messages only. Readers that are told different places and find
the same items give the same value, or both give none (`Reader.Agree`); so a record whose members are read
like that is read alike from two texts with the same items (`Record.toOption_ofText`).
-/

namespace Cutout.Yaml

/-- Two documents have the same items, and references in them lead to the same ones. -/
structure Document.Alike (d d' : Document) : Prop where
  items : d.items.map (·.1) = d'.items.map (·.1)
  targets : d.targets = d'.targets

namespace Document

variable {d d' : Document} {items items' : Items}

theorem Alike.target (h : d.Alike d') (n : Nat) :
    (d.target n).map (·.1) = (d'.target n).map (·.1) := by
  unfold Document.target
  rw [h.targets]
  cases d'.targets.find? (·.1 == n) with
  | none => rfl
  | some t => simp only [List.map_drop, h.items]

/-- Passing over a node fails in both documents, or leads to the same items. -/
theorem skipFrom_cases (d d' : Document) (depth : Nat) (h : items.map (·.1) = items'.map (·.1)) :
    (∃ f f', d.skipFrom depth items = .error f ∧ d'.skipFrom depth items' = .error f') ∨
      ∃ rest rest', d.skipFrom depth items = .ok rest ∧ d'.skipFrom depth items' = .ok rest' ∧
        rest.map (·.1) = rest'.map (·.1) := by
  induction items generalizing depth items' with
  | nil =>
    obtain rfl := List.map_eq_nil_iff.1 h.symm
    exact .inl ⟨_, _, rfl, rfl⟩
  | cons x items ih =>
    obtain ⟨i, m⟩ := x
    obtain ⟨⟨i', m'⟩, items', rfl, rfl, hrest⟩ := List.map_eq_cons_iff.1 h.symm
    unfold skipFrom
    cases i' with
    | sequenceStart => exact ih _ hrest.symm
    | mappingStart => exact ih _ hrest.symm
    | _ =>
      dsimp only
      split
      · exact .inr ⟨_, _, rfl, rfl, hrest.symm⟩
      · exact ih _ hrest.symm

end Document

namespace Reader

variable {α β : Type}

/-- What a reader comes to apart from places: a value and the items behind it, or nothing. -/
def outcome (x : Except Refusal (α × Items)) : Option (α × List Item) :=
  x.toOption.map fun r => (r.1, r.2.map (·.1))

/-- Two readers come to the same wherever they find the same items. -/
def Agree (r r' : Reader α) : Prop :=
  ∀ ⦃d d' : Document⦄, d.Alike d' → ∀ (path path' : Path) ⦃items items' : Items⦄,
    items.map (·.1) = items'.map (·.1) → outcome (r d path items) = outcome (r' d' path' items')

section Agree

variable {r r' : Reader α} {x x' : Except Refusal (α × Items)}

theorem outcome_mapError (f : Refusal → Refusal) : outcome (x.mapError f) = outcome x := by
  cases x <;> rfl

theorem outcome_map (f : α → β) :
    outcome (x.map fun y => (f y.1, y.2)) = (outcome x).map fun y => (f y.1, y.2) := by
  cases x <;> rfl

/-- Readings that come to the same both fail, or give one value and leave the same items. -/
theorem outcome_cases (h : outcome x = outcome x') :
    (∃ e e', x = .error e ∧ x' = .error e') ∨
      ∃ a rest rest', x = .ok (a, rest) ∧ x' = .ok (a, rest') ∧
        rest.map (·.1) = rest'.map (·.1) := by
  cases x with
  | error e =>
    cases x' with
    | error e' => exact .inl ⟨e, e', rfl, rfl⟩
    | ok y' => cases h
  | ok y =>
    cases x' with
    | error e' => cases h
    | ok y' =>
      obtain ⟨ha, hrest⟩ := Prod.mk.inj (Option.some.inj h)
      exact .inr ⟨y.1, y.2, y'.2, rfl, by rw [ha], hrest⟩

/-- Where two readings come to the same, so do readings that go on from there alike. -/
theorem outcome_bind {f f' : α × Items → Except Refusal (β × Items)} (h : outcome x = outcome x')
    (hf : ∀ a (rest rest' : Items), rest.map (·.1) = rest'.map (·.1) →
      outcome (f (a, rest)) = outcome (f' (a, rest'))) :
    outcome (x.bind f) = outcome (x'.bind f') := by
  rcases outcome_cases h with ⟨e, e', rfl, rfl⟩ | ⟨a, rest, rest', rfl, rfl, hrest⟩
  · rfl
  · exact hf a rest rest' hrest

theorem agree_refuse (y y' : Misfit) : Agree (refuse y : Reader α) (refuse y') :=
  fun _ _ _ _ _ _ _ _ => rfl

theorem agree_give (a : α) : Agree (give a) (give a) := by
  intro d d' hd path path' items items' hitems
  exact congrArg (fun is => some (a, is)) hitems

theorem Agree.placed (h : Agree r r') (m m' : Mark) : Agree (r.placed m) (r'.placed m') := by
  intro d d' hd path path' items items' hitems
  rw [Reader.placed, Reader.placed, outcome_mapError, outcome_mapError]
  exact h hd path path' hitems

/-- Looking at the next node, wherever it stands, agrees if what is done with it does. -/
theorem agree_look {k k' : Item → Mark → Reader α} (h : ∀ i m m', Agree (k i m) (k' i m')) :
    Agree (look k) (look k') := by
  intro d d' hd path path' items items' hitems
  cases items with
  | nil =>
    obtain rfl := List.map_eq_nil_iff.1 hitems.symm
    rfl
  | cons x rest =>
    obtain ⟨i, m⟩ := x
    obtain ⟨⟨i', m'⟩, rest', rfl, rfl, hrest⟩ := List.map_eq_cons_iff.1 hitems.symm
    cases i' with
    | reference n =>
      have htarget := hd.target n
      unfold look
      dsimp only
      cases htail : d.target n with
      | nil =>
        rw [htail] at htarget
        rw [List.map_eq_nil_iff.1 htarget.symm]
        rfl
      | cons y body =>
        obtain ⟨j, l⟩ := y
        rw [htail] at htarget
        obtain ⟨⟨j', l'⟩, body', hbody, rfl, hsame⟩ := List.map_eq_cons_iff.1 htarget.symm
        rw [hbody]
        exact outcome_bind (h j' l l' hd path path' hsame.symm) fun a _ _ _ =>
          congrArg (fun is => some (a, is)) hrest.symm
    | _ => exact h _ m m' hd path path' hrest.symm

theorem agree_ofScalar (expected : String) (f : Scalar → Option (Except Misfit α)) :
    Agree (ofScalar expected f) (ofScalar expected f) := by
  refine agree_look fun i m m' => Agree.placed ?_ m m'
  cases i with
  | scalar s =>
    dsimp only
    split
    · exact agree_give _
    · exact agree_refuse _ _
    · exact agree_refuse _ _
  | _ => exact agree_refuse _ _

theorem Agree.optional (h : Agree r r) : Agree r.optional r.optional := by
  intro d d' hd path path' items items' hitems
  refine agree_look (fun i m m' => ?_) hd path path' hitems
  -- what is present is read where the walk has begun, not behind a reference
  have hpresent : Agree (fun d path _ => (r d path items).map fun x => (some x.1, x.2))
      (fun d path _ => (r d path items').map fun x => (some x.1, x.2)) := by
    intro d d' hd path path' _ _ _
    rw [outcome_map, outcome_map, h hd path path' hitems]
  cases i with
  | scalar s =>
    dsimp only
    split
    · exact agree_give none
    · exact hpresent
    · exact agree_refuse _ _
  | nothing => exact agree_give none
  | _ => exact hpresent

theorem Agree.member {key : String} {set : α → β → β} (h : Agree r r) :
    Agree (Member.of key r set).read (Member.of key r set).read := by
  intro d d' hd path path' items items' hitems
  simp only [Member.of, outcome_map, h hd path path' hitems]

end Agree

end Reader

namespace Record

open Reader

variable {α : Type} {r : Record α}

/-- What is done behind a key: its value is read or passed over, and then the entries behind it. The name
is the one that messages give to the place of the value. -/
def behindKey (r : Record α) (fuel : Nat) (seen : List String) (a : α) (d : Document) (path : Path)
    (name : Option String) (x : String × Items) : Except Refusal (α × Items) :=
  match r.members.find? (·.key == x.1) with
  | none =>
    match d.skip x.2 with
    | .error f => .error (.fault f)
    | .ok rest => r.entriesFrom fuel seen a d path rest
  | some m =>
    if seen.contains x.1 then .error (.unplaced (.duplicate x.1))
    else (m.read d (path ++ [name]) x.2).bind fun y =>
      r.entriesFrom fuel (x.1 :: seen) (y.1 a) d path y.2

theorem entriesFrom_succ {fuel : Nat} {seen : List String} {a : α} {d : Document} {path : Path}
    {items : Items} (h : ∀ m rest, items ≠ (.mappingEnd, m) :: rest) :
    r.entriesFrom (fuel + 1) seen a d path items =
      (Reader.text "field identifier" d path items).bind
        (r.behindKey fuel seen a d path (keyName items)) := by
  unfold entriesFrom
  split
  · next m rest => exact absurd rfl (h m rest)
  · rfl

/-- What is done behind a key agrees if what is done behind its value does. -/
theorem outcome_behindKey (h : ∀ m ∈ r.members, Agree m.read m.read) {fuel : Nat}
    (hrest : ∀ seen a, Agree (r.entriesFrom fuel seen a) (r.entriesFrom fuel seen a)) {seen : List String}
    {a : α} {d d' : Document} (hd : d.Alike d') (path path' : Path) (name name' : Option String)
    (key : String) {body body' : Items} (hbody : body.map (·.1) = body'.map (·.1)) :
    outcome (r.behindKey fuel seen a d path name (key, body)) =
      outcome (r.behindKey fuel seen a d' path' name' (key, body')) := by
  unfold behindKey
  dsimp only
  cases hm : r.members.find? (·.key == key) with
  | none =>
    simp only [Document.skip]
    rcases Document.skipFrom_cases d d' 0 hbody with ⟨f, f', hf, hf'⟩ | ⟨rest, rest', hf, hf', hsame⟩
    · rw [hf, hf']
      rfl
    · rw [hf, hf']
      exact hrest seen a hd path path' hsame
  | some m =>
    dsimp only
    split
    · rfl
    · refine outcome_bind (h m (List.mem_of_find?_eq_some hm) hd _ _ hbody) fun f rest rest' hsame => ?_
      exact hrest (key :: seen) (f a) hd path path' hsame

/-- Entries are read alike wherever they stand: a key tells which member is read, and the number of items
bounds how many there are. -/
theorem agree_entriesFrom (h : ∀ m ∈ r.members, Agree m.read m.read) (fuel : Nat) (seen : List String)
    (a : α) : Agree (r.entriesFrom fuel seen a) (r.entriesFrom fuel seen a) := by
  induction fuel generalizing seen a with
  | zero => exact fun _ _ _ _ _ _ _ _ => rfl
  | succ fuel ih =>
    intro d d' hd path path' items items' hitems
    by_cases hend : ∃ m rest, items = (.mappingEnd, m) :: rest
    · obtain ⟨m, rest, rfl⟩ := hend
      obtain ⟨⟨i, m'⟩, rest', rfl, rfl, hrest⟩ := List.map_eq_cons_iff.1 hitems.symm
      exact congrArg (fun is => some (a, is)) hrest.symm
    · have hnot : ∀ m rest, items ≠ (.mappingEnd, m) :: rest := fun m rest heq => hend ⟨m, rest, heq⟩
      have hnot' : ∀ m rest, items' ≠ (.mappingEnd, m) :: rest := by
        rintro m rest rfl
        obtain ⟨⟨i, m'⟩, rest', rfl, rfl, -⟩ := List.map_eq_cons_iff.1 hitems
        exact hnot m' rest' rfl
      rw [entriesFrom_succ hnot, entriesFrom_succ hnot']
      apply outcome_bind (agree_ofScalar _ _ hd path path' hitems)
      intro key body body' hbody
      exact outcome_behindKey h ih hd path path' _ _ key hbody

/-- A record is read alike wherever it stands, if its members are. -/
theorem agree_read (h : ∀ m ∈ r.members, Agree m.read m.read) : Agree r.read r.read := by
  have hentries : Agree r.entries r.entries := by
    intro d d' hd path path' items items' hitems
    have hlength : items.length = items'.length := by simpa using congrArg List.length hitems
    rw [entries, entries, hlength]
    exact agree_entriesFrom h _ _ _ hd path path' hitems
  refine agree_look fun i m m' => Agree.placed ?_ m m'
  cases i with
  | mappingStart => exact hentries
  | nothing => exact agree_give _
  | scalar s =>
    dsimp only
    split
    · exact agree_give _
    · exact agree_refuse _ _
  | _ => exact agree_refuse _ _

/-- Two texts with the same items and no faults are read as the same record, or neither is. -/
theorem toOption_ofText (h : ∀ m ∈ r.members, Agree m.read m.read) {text text' : String}
    (hd : (Document.ofText text).Alike (Document.ofText text'))
    (hfault : (Document.ofText text).fault = none) (hfault' : (Document.ofText text').fault = none)
    (hover : (Document.ofText text).continued = false)
    (hover' : (Document.ofText text').continued = false) :
    (r.ofText text).toOption = (r.ofText text').toOption := by
  unfold ofText
  rcases outcome_cases (agree_read h hd [] [] hd.items) with
    ⟨e, e', he, he'⟩ | ⟨a, rest, rest', ha, ha', -⟩
  · simp only [he, he']
    rfl
  · simp only [ha, ha', hfault, hfault', hover, hover']

end Record

end Cutout.Yaml
