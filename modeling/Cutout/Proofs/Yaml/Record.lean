import Cutout.Proofs.Yaml.Items
import Cutout.Yaml.Record
import Mathlib.Algebra.Group.Int.Defs
import Mathlib.Data.List.Nodup

/-!
# Records from written mappings

A vocabulary names the keys of a mapping and says how their values are written; a meaning adds how a
record reads them. Lines over a vocabulary can come in any order, with keys that are not in it and lines
without content among them. Their text is read as the record that they come to if no key is repeated
and every value can be read, and as nothing otherwise (`Meaning.ofText_block`). A field of that record is
what the lines give to its key, and blank if they give nothing (`Meaning.get_result`).
-/

namespace Cutout.Yaml

/-! ## Readers -/

namespace Reader

variable {α β : Type} {r : Reader α} {is tail : List Item} {good : Prop} {a : α} {s : Scalar}

/-- Wherever these items stand first, a reader gives `a` and passes over them if they are good, and
fails if they are not. -/
structure Reads (r : Reader α) (is : List Item) (good : Prop) (a : α) : Prop where
  ok : good → ∀ d path items tail, items.map (·.1) = is ++ tail →
    ∃ rest, rest.map (·.1) = tail ∧ r d path items = .ok (a, rest)
  error : ¬ good → ∀ d path items tail, items.map (·.1) = is ++ tail →
    ∃ e, r d path items = .error e

/-- What is not a reference is looked at where it stands. -/
theorem look_cons {k : Item → Mark → Reader α} {d : Document} {path : Path} {i : Item} {m : Mark}
    {rest : Items} (hi : ∀ n, i ≠ .reference n) : look k d path ((i, m) :: rest) = k i m d path rest := by
  cases i with
  | reference n => exact absurd rfl (hi n)
  | _ => rfl

theorem reads_ofScalar {expected : String} {f : Scalar → Option (Except Misfit α)}
    (hgood : good → f s = some (.ok a)) (hbad : ¬ good → ∀ a, f s ≠ some (.ok a)) :
    (ofScalar expected f).Reads [.scalar s] good a := by
  constructor
  · intro h d path items tail hitems
    obtain ⟨⟨i, m⟩, rest, rfl, rfl, hrest⟩ := List.map_eq_cons_iff.1 hitems
    refine ⟨rest, hrest, ?_⟩
    rw [ofScalar, look_cons (by simp)]
    simp only [placed, hgood h]
    rfl
  · intro h d path items tail hitems
    obtain ⟨⟨i, m⟩, rest, rfl, rfl, hrest⟩ := List.map_eq_cons_iff.1 hitems
    rw [ofScalar, look_cons (by simp)]
    cases hf : f s with
    | none => exact ⟨_, by simp only [placed, hf]; rfl⟩
    | some x =>
      cases x with
      | error x => exact ⟨_, by simp only [placed, hf]; rfl⟩
      | ok b => exact absurd hf (hbad h b)

theorem reads_text (expected : String) (t : Quotable) :
    (text expected).Reads [.scalar (Leaf.text t).scalar] True t.text := by
  have hstring : (Leaf.text t).scalar.string = t.text := String.ofList_toList
  exact reads_ofScalar (fun _ => by rw [hstring]) fun h => absurd trivial h

theorem reads_boolean (b : Bool) : boolean.Reads [.scalar (Leaf.truth b).scalar] True b := by
  refine reads_ofScalar (fun _ => ?_) fun h => absurd trivial h
  cases b <;> decide

/-- An integer is read if it has no minus sign and fits, and then it is the number that is written. -/
theorem reads_natural (bits : Nat) (expected : String) (n : Int) :
    (natural bits expected).Reads [.scalar (Leaf.number n).scalar] (0 ≤ n ∧ n < 2 ^ bits) n.toNat := by
  have hfits : 0 ≤ n → (n.toNat < Nat.pow 2 bits ↔ n < 2 ^ bits) := fun h => by
    rw [Int.toNat_lt h]
    exact Iff.of_eq (congrArg (n < ·) (Int.natCast_pow 2 bits))
  have hplain : (Leaf.number n).scalar.speaksFor "int" = true := rfl
  have htext : unsigned? (Leaf.number n).scalar.text = if 0 ≤ n then some n.toNat else none :=
    unsigned?_toString n
  refine reads_ofScalar (fun h => ?_) fun h m => ?_
  · rw [if_pos hplain, htext, if_pos h.1]
    simp only [(hfits h.1).2 h.2, if_true]
  · rw [if_pos hplain, htext]
    by_cases hn : 0 ≤ n
    · have hlarge : ¬ n.toNat < Nat.pow 2 bits := fun hlt => h ⟨hn, (hfits hn).1 hlt⟩
      simp only [if_pos hn, if_neg hlarge]
      split <;> simp
    · simp [if_neg hn]

theorem Reads.optional (h : r.Reads [.scalar s] good a) (hs : isAbsence s = .ok false) :
    r.optional.Reads [.scalar s] good (some a) := by
  constructor
  · intro hgood d path items tail hitems
    obtain ⟨rest, hrest, hr⟩ := h.ok hgood d path items tail hitems
    obtain ⟨⟨i, m⟩, items, rfl, rfl, -⟩ := List.map_eq_cons_iff.1 hitems
    refine ⟨rest, hrest, ?_⟩
    rw [Reader.optional, look_cons (by simp)]
    simp only [hs, hr]
    rfl
  · intro hbad d path items tail hitems
    obtain ⟨e, hr⟩ := h.error hbad d path items tail hitems
    obtain ⟨⟨i, m⟩, items, rfl, rfl, -⟩ := List.map_eq_cons_iff.1 hitems
    refine ⟨e, ?_⟩
    rw [Reader.optional, look_cons (by simp)]
    simp only [hs, hr]
    rfl

/-- A text is not the absence of a value. -/
theorem isAbsence_text (t : Quotable) : isAbsence (Leaf.text t).scalar = .ok false := rfl

/-- An integer is not the absence of a value. -/
theorem isAbsence_number (n : Int) : isAbsence (Leaf.number n).scalar = .ok false := by
  have hne : ((toString n).toList).isEmpty = false := by simpa using (isBare_toString n).ne_nil
  have h : isAbsence (Leaf.number n).scalar =
      .ok (true && (((toString n).toList).isEmpty || isNull (toString n).toList)) := rfl
  rw [h, hne, isNull_toString]
  rfl

/-- A member is read as its value is. -/
theorem Reads.member {key : String} {set : α → β → β} (h : r.Reads is good a) :
    (Member.of key r set).read.Reads is good (set a) := by
  constructor
  · intro hgood d path items tail hitems
    obtain ⟨rest, hrest, hr⟩ := h.ok hgood d path items tail hitems
    exact ⟨rest, hrest, by simp only [Member.of, hr]; rfl⟩
  · intro hbad d path items tail hitems
    obtain ⟨e, hr⟩ := h.error hbad d path items tail hitems
    exact ⟨e, by simp only [Member.of, hr]; rfl⟩

end Reader

/-! ## Vocabularies -/

/-- What stands behind a key. -/
inductive Node where
  | leaf (v : Leaf)
  | block (further : Nat) (inner : Block)

/-- The items of a node. A mapping without entries counts as nothing written. -/
def Node.items : Node → List Item
  | leaf v => [.scalar v.scalar]
  | block _ inner =>
    if inner.hasEntry then .mappingStart :: (inner.items ++ [.mappingEnd])
    else [.scalar ⟨none, [], .plain⟩]

/-- A block with one more entry in front. -/
def Block.entry (key : Name) : Node → Block → Block
  | .leaf v, rest => .line key v rest
  | .block further inner, rest => .group key further inner rest

theorem Block.items_entry (key : Name) (node : Node) (rest : Block) :
    (Block.entry key node rest).items = .scalar key.scalar :: (node.items ++ rest.items) := by
  cases node <;> rfl

theorem Block.hasEntry_entry (key : Name) (node : Node) (rest : Block) :
    (Block.entry key node rest).hasEntry = true := by
  cases node <;> rfl

/-- The keys that a mapping can have, no two with one name, and what the values of each are and how they
are written. -/
structure Vocabulary where
  Key : Type
  decEq : DecidableEq Key
  all : List Key
  mem_all : ∀ k, k ∈ all
  name : Key → Name
  nodup : (all.map fun k => (name k).text).Nodup
  Value : Key → Type
  node : (k : Key) → Value k → Node

/-- A line of a mapping, or a key of it together with the lines below. -/
inductive Line (V : Vocabulary) where
  | known (k : V.Key) (v : V.Value k)
  | other (key : Name) (new : ∀ k, V.name k ≠ key) (v : Leaf)
  | filler (f : Filler)

namespace Line

variable {V : Vocabulary}

/-- Write a line in front of others. -/
def write : Line V → Block → Block
  | known k v, rest => .entry (V.name k) (V.node k v) rest
  | other key _ v, rest => .line key v rest
  | filler f, rest => .filler f rest

/-- The key of the vocabulary that a line has, if it has one. -/
def key? : Line V → Option V.Key
  | known k _ => some k
  | _ => none

/-- The value that a line gives to a key, if it does. -/
def value? (k : V.Key) : Line V → Option (V.Value k)
  | known k' v =>
    match V.decEq k' k with
    | isTrue h => some (h ▸ v)
    | isFalse _ => none
  | _ => none

theorem value?_known {k : V.Key} {v : V.Value k} : (known k v).value? k = some v := by
  simp only [value?]
  split
  · rfl
  · next hne _ => exact absurd rfl hne

theorem eq_known {l : Line V} {k : V.Key} {v : V.Value k} (h : l.value? k = some v) :
    l = known k v := by
  cases l with
  | known k' v' =>
    simp only [value?] at h
    split at h
    · next heq _ =>
      subst heq
      cases h
      rfl
    · cases h
  | other key new v' => cases h
  | filler f => cases h

end Line

/-- A mapping that stands further right than its key. -/
structure Section (V : Vocabulary) where
  further : Nat
  lines : List (Line V)

namespace Vocabulary

variable {V : Vocabulary}

/-- The block of some lines. -/
def block (lines : List (Line V)) : Block :=
  lines.foldr Line.write .done

/-- The keys of the vocabulary that some lines have. -/
def keys (lines : List (Line V)) : List V.Key :=
  lines.filterMap Line.key?

/-- The value that some lines give to a key. -/
def find (k : V.Key) (lines : List (Line V)) : Option (V.Value k) :=
  lines.findSome? (Line.value? k)

instance : DecidableEq V.Key :=
  V.decEq

/-- What holds of every value that some lines give to a key can be found out line by line. -/
theorem forall_known {k : V.Key} {lines : List (Line V)} {p : V.Value k → Prop} :
    (∀ l ∈ lines, ∀ v ∈ l.value? k, p v) ↔ ∀ v, Line.known k v ∈ lines → p v :=
  ⟨fun h v hv => h _ hv v Line.value?_known, fun h _ hl v hv => h v (Line.eq_known hv ▸ hl)⟩

/-- Look through some lines for a value of a key that does not have a property. -/
def decideKnown (k : V.Key) (p : V.Value k → Prop) [DecidablePred p] (lines : List (Line V)) :
    Decidable (∀ v, Line.known k v ∈ lines → p v) :=
  decidable_of_iff _ forall_known

theorem find_cons_of_ne {l : Line V} {lines : List (Line V)} {k : V.Key} (h : l.key? ≠ some k) :
    find k (l :: lines) = find k lines := by
  refine List.findSome?_cons_of_isNone ?_
  cases l with
  | known k' v =>
    have hne : ¬ k' = k := fun heq => h (congrArg some heq)
    simp only [Line.value?]
    split
    · next heq _ => exact absurd heq hne
    · rfl
  | other key new v => rfl
  | filler f => rfl

theorem find_cons_self {k : V.Key} {v : V.Value k} {lines : List (Line V)} :
    find k (.known k v :: lines) = some v := by
  rw [find, List.findSome?_cons, Line.value?_known]

/-- A key that some lines do not have is given nothing. -/
theorem find_of_notMem {k : V.Key} {lines : List (Line V)} (h : k ∉ keys lines) :
    find k lines = none := by
  induction lines with
  | nil => rfl
  | cons l lines ih =>
    have hl : l.key? ≠ some k := fun heq =>
      h (List.mem_filterMap.2 ⟨l, List.mem_cons_self, heq⟩)
    rw [find_cons_of_ne hl]
    exact ih fun hk => h (by
      obtain ⟨l', hl', heq⟩ := List.mem_filterMap.1 hk
      exact List.mem_filterMap.2 ⟨l', List.mem_cons_of_mem l hl', heq⟩)

/-- What a key is given is given in one of the lines. -/
theorem mem_of_find {k : V.Key} {v : V.Value k} {lines : List (Line V)}
    (h : find k lines = some v) : Line.known k v ∈ lines := by
  obtain ⟨l, hl, hvalue⟩ := List.exists_of_findSome?_eq_some h
  exact Line.eq_known hvalue ▸ hl

theorem name_injective {k k' : V.Key} (h : (V.name k).text = (V.name k').text) : k = k' :=
  List.inj_on_of_nodup_map V.nodup (V.mem_all k) (V.mem_all k') h

end Vocabulary

/-! ## Records -/

/-- What the keys of a vocabulary mean for a record: each belongs to a field of the record that its
values are read for, and the fields do not get in the way of each other. -/
structure Meaning (V : Vocabulary) (α : Type) where
  record : Record α
  Field : V.Key → Type
  reader : (k : V.Key) → Reader (Field k)
  get : (k : V.Key) → α → Field k
  put : (k : V.Key) → Field k → α → α
  get_put : ∀ k x a, get k (put k x a) = x
  get_put_of_ne : ∀ k k' x a, k' ≠ k → get k (put k' x a) = get k a
  members : record.members = V.all.map fun k => .of (V.name k).text (reader k) (put k)
  /-- What a value comes to, and which values can be read. -/
  value : (k : V.Key) → V.Value k → Field k
  Fits : (k : V.Key) → V.Value k → Prop
  reads : ∀ k v, (reader k).Reads (V.node k v).items (Fits k v) (value k v)

namespace Meaning

variable {V : Vocabulary} {α : Type} (M : Meaning V α)

/-- The member of the record that a key is read by. -/
def member (k : V.Key) : Member α :=
  .of (V.name k).text (M.reader k) (M.put k)

theorem member_key (k : V.Key) : (M.member k).key = (V.name k).text := rfl

theorem reads_member (k : V.Key) (v : V.Value k) :
    (M.member k).read.Reads (V.node k v).items (M.Fits k v) (M.put k (M.value k v)) :=
  (M.reads k v).member

/-- What a line does to the record. -/
def apply (a : α) : Line V → α
  | .known k v => M.put k (M.value k v) a
  | _ => a

/-- The record that some lines give. -/
def result (lines : List (Line V)) : α :=
  lines.foldl M.apply M.record.blank

/-- Lines can be read behind some keys: no key is repeated, and every value fits. -/
structure Legible (seen : List String) (lines : List (Line V)) : Prop where
  nodup : (Vocabulary.keys lines).Nodup
  fresh : ∀ k ∈ Vocabulary.keys lines, (V.name k).text ∉ seen
  fits : ∀ k v, Line.known k v ∈ lines → M.Fits k v

theorem legible_nil (seen : List String) : M.Legible seen [] :=
  ⟨List.nodup_nil, by simp [Vocabulary.keys], by simp⟩

theorem legible_skip {seen : List String} {l : Line V} {lines : List (Line V)} (hl : l.key? = none) :
    M.Legible seen (l :: lines) ↔ M.Legible seen lines := by
  have hkeys : Vocabulary.keys (l :: lines) = Vocabulary.keys lines := List.filterMap_cons_none hl
  have hknown : ∀ k v, Line.known k v ≠ l := by
    rintro k v rfl
    cases hl
  refine ⟨fun h => ⟨hkeys ▸ h.nodup, hkeys ▸ h.fresh, fun k v hkv => h.fits k v ?_⟩, fun h =>
    ⟨hkeys.symm ▸ h.nodup, hkeys.symm ▸ h.fresh, fun k v hkv => h.fits k v ?_⟩⟩
  · exact List.mem_cons_of_mem l hkv
  · exact (List.mem_cons.1 hkv).resolve_left (hknown k v)

theorem legible_known {seen : List String} {k : V.Key} {v : V.Value k} {lines : List (Line V)} :
    M.Legible seen (.known k v :: lines) ↔
      (V.name k).text ∉ seen ∧ M.Fits k v ∧ M.Legible ((V.name k).text :: seen) lines := by
  have hkeys : Vocabulary.keys (.known k v :: lines) = k :: Vocabulary.keys lines := rfl
  constructor
  · intro h
    have hnodup := hkeys ▸ h.nodup
    refine ⟨h.fresh k (hkeys ▸ List.mem_cons_self), h.fits k v List.mem_cons_self,
      (List.nodup_cons.1 hnodup).2, fun k' hk' hmem => ?_,
      fun k' v' h' => h.fits k' v' (List.mem_cons_of_mem _ h')⟩
    rcases List.mem_cons.1 hmem with heq | hseen
    · exact (List.nodup_cons.1 hnodup).1 (Vocabulary.name_injective heq ▸ hk')
    · exact h.fresh k' (hkeys ▸ List.mem_cons_of_mem k hk') hseen
  · rintro ⟨hnew, hfits, h⟩
    refine ⟨hkeys ▸ List.nodup_cons.2 ⟨fun hk => h.fresh k hk List.mem_cons_self, h.nodup⟩, ?_, ?_⟩
    · rw [hkeys, List.forall_mem_cons]
      exact ⟨hnew, fun k' hk' hseen => h.fresh k' hk' (List.mem_cons_of_mem _ hseen)⟩
    · intro k' v' h'
      rcases List.mem_cons.1 h' with heq | hmem
      · cases heq
        exact hfits
      · exact h.fits k' v' hmem

/-- What the entries behind a key come to, once it is known which member the key belongs to. -/
theorem entriesFrom_scalar {r : Record α} {fuel : Nat} {seen : List String} {a : α} {d : Document}
    {path : Path} {s : Scalar} {m : Mark} {rest : Items} :
    r.entriesFrom (fuel + 1) seen a d path ((.scalar s, m) :: rest) =
      match r.members.find? (·.key == s.string) with
      | none =>
        match d.skip rest with
        | .error f => .error (.fault f)
        | .ok rest => r.entriesFrom fuel seen a d path rest
      | some b =>
        if seen.contains s.string then .error (.unplaced (.duplicate s.string))
        else (b.read d (path ++ [some s.string]) rest).bind fun x =>
          r.entriesFrom fuel (s.string :: seen) (x.1 a) d path x.2 :=
  rfl

theorem exists_name {m : Member α} (hm : m ∈ M.record.members) : ∃ k, m = M.member k := by
  rw [M.members] at hm
  obtain ⟨k, -, rfl⟩ := List.mem_map.1 hm
  exact ⟨k, rfl⟩

theorem find_name (k : V.Key) :
    M.record.members.find? (·.key == (V.name k).text) = some (M.member k) := by
  have hsome : (M.record.members.find? (·.key == (V.name k).text)).isSome := by
    rw [List.find?_isSome]
    refine ⟨M.member k, ?_, by rw [M.member_key, beq_self_eq_true]⟩
    rw [M.members]
    exact List.mem_map_of_mem (V.mem_all k)
  obtain ⟨m, hm⟩ := Option.isSome_iff_exists.1 hsome
  obtain ⟨k', rfl⟩ := M.exists_name (List.mem_of_find?_eq_some hm)
  have hkey := List.find?_some hm
  rw [M.member_key, beq_iff_eq] at hkey
  rw [hm, Vocabulary.name_injective hkey]

theorem find_other {key : Name} (hnew : ∀ k, V.name k ≠ key) :
    M.record.members.find? (·.key == key.scalar.string) = none := by
  rw [List.find?_eq_none]
  intro m hm heq
  obtain ⟨k, rfl⟩ := M.exists_name hm
  refine hnew k ?_
  have htext : (V.name k).text = key.text := by
    rw [← M.member_key, beq_iff_eq.1 heq]
    exact String.ofList_toList
  cases hV : V.name k
  cases key
  simp only [hV] at htext
  subst htext
  rfl

/-- The entries of a mapping are read if they are legible, and give what its lines come to. -/
theorem entriesFrom_block (lines : List (Line V)) (seen : List String) (a : α) (d : Document)
    (path : Path) {fuel : Nat} {items : Items} {tail : List Item}
    (hitems : items.map (·.1) = (Vocabulary.block lines).items ++ .mappingEnd :: tail)
    (hfuel : (Vocabulary.block lines).items.length < fuel) :
    (M.Legible seen lines → ∃ rest, rest.map (·.1) = tail ∧
      M.record.entriesFrom fuel seen a d path items = .ok (lines.foldl M.apply a, rest)) ∧
    (¬ M.Legible seen lines → ∃ e, M.record.entriesFrom fuel seen a d path items = .error e) := by
  induction lines generalizing fuel seen a items with
  | nil =>
    obtain ⟨⟨i, m⟩, rest, rfl, rfl, hrest⟩ := List.map_eq_cons_iff.1 hitems
    obtain ⟨fuel, rfl⟩ := Nat.exists_eq_succ_of_ne_zero (Nat.ne_of_gt hfuel)
    exact ⟨fun _ => ⟨rest, hrest, rfl⟩, fun h => absurd (M.legible_nil seen) h⟩
  | cons l lines ih =>
    cases l with
    | filler f =>
      rw [M.legible_skip rfl]
      exact ih seen a hitems hfuel
    | other key new v =>
      have hblock : (Vocabulary.block (.other key new v :: lines)).items =
          .scalar key.scalar :: .scalar v.scalar :: (Vocabulary.block lines).items := rfl
      rw [hblock, List.cons_append, List.cons_append] at hitems
      rw [hblock, List.length_cons, List.length_cons] at hfuel
      obtain ⟨⟨i, m⟩, body, rfl, rfl, hbody⟩ := List.map_eq_cons_iff.1 hitems
      obtain ⟨⟨i, m'⟩, rest, rfl, rfl, hrest⟩ := List.map_eq_cons_iff.1 hbody
      obtain ⟨fuel, rfl⟩ := Nat.exists_eq_succ_of_ne_zero (Nat.ne_of_gt (Nat.zero_lt_of_lt hfuel))
      have hskip : d.skip ((.scalar v.scalar, m') :: rest) = .ok rest := rfl
      rw [M.legible_skip rfl, entriesFrom_scalar, M.find_other new]
      simp only [hskip]
      exact ih seen a hrest (by omega)
    | known k v =>
      have hblock : (Vocabulary.block (.known k v :: lines)).items =
          .scalar (V.name k).scalar :: ((V.node k v).items ++ (Vocabulary.block lines).items) :=
        Block.items_entry _ _ _
      rw [hblock, List.cons_append, List.append_assoc] at hitems
      rw [hblock, List.length_cons, List.length_append] at hfuel
      obtain ⟨⟨i, m⟩, body, rfl, rfl, hbody⟩ := List.map_eq_cons_iff.1 hitems
      obtain ⟨fuel, rfl⟩ := Nat.exists_eq_succ_of_ne_zero (Nat.ne_of_gt (Nat.zero_lt_of_lt hfuel))
      have hname : (V.name k).scalar.string = (V.name k).text := String.ofList_toList
      rw [M.legible_known, entriesFrom_scalar, hname, M.find_name]
      -- a repeated key and a value that does not fit end it; otherwise the key has been seen
      by_cases hseen : (V.name k).text ∈ seen
      · have hcontains : seen.contains (V.name k).text = true := List.contains_iff_mem.2 hseen
        simp only [hcontains, if_true]
        exact ⟨fun h => absurd hseen h.1, fun _ => ⟨_, rfl⟩⟩
      have hcontains : seen.contains (V.name k).text = false := by
        simpa using hseen
      simp only [hcontains, Bool.false_eq_true, if_false]
      by_cases hfits : M.Fits k v
      · obtain ⟨rest, hrest, hread⟩ :=
          (M.reads_member k v).ok hfits d (path ++ [some (V.name k).text]) body _ hbody
        rw [hread]
        obtain ⟨hok, herror⟩ := ih ((V.name k).text :: seen) (M.put k (M.value k v) a) hrest
          (show _ < fuel by omega)
        exact ⟨fun h => hok h.2.2, fun h => herror fun h' => h ⟨hseen, hfits, h'⟩⟩
      · obtain ⟨e, hread⟩ := (M.reads_member k v).error hfits d (path ++ [some (V.name k).text]) body _ hbody
        rw [hread]
        exact ⟨fun h => absurd h.2.1 hfits, fun _ => ⟨e, rfl⟩⟩

/-- Lines without content are legible, and leave the record blank. -/
theorem of_not_hasEntry {lines : List (Line V)} (h : (Vocabulary.block lines).hasEntry = false) :
    M.Legible [] lines ∧ M.result lines = M.record.blank := by
  induction lines with
  | nil => exact ⟨M.legible_nil [], rfl⟩
  | cons l lines ih =>
    cases l with
    | filler f => exact ⟨(M.legible_skip rfl).2 (ih h).1, (ih h).2⟩
    | other key new v => cases h
    | known k v => exact absurd ((Block.hasEntry_entry _ _ _).symm.trans h) Bool.noConfusion

/-- A written mapping is read as a record if its lines are legible. -/
theorem reads_mapping (lines : List (Line V)) :
    M.record.read.Reads (.mappingStart :: ((Vocabulary.block lines).items ++ [.mappingEnd]))
      (M.Legible [] lines) (M.result lines) := by
  have hentries : ∀ d path items tail, items.map (·.1) =
      .mappingStart :: ((Vocabulary.block lines).items ++ [.mappingEnd]) ++ tail →
      ∃ m body, items = (.mappingStart, m) :: body ∧
        M.record.read d path items = Reader.placed m M.record.entries d path body ∧
        body.map (·.1) = (Vocabulary.block lines).items ++ .mappingEnd :: tail ∧
        (Vocabulary.block lines).items.length < body.length + 1 := by
    intro d path items tail hitems
    rw [List.cons_append, List.append_assoc] at hitems
    obtain ⟨⟨i, m⟩, body, rfl, rfl, hbody⟩ := List.map_eq_cons_iff.1 hitems
    have hlength := congrArg List.length hbody
    simp only [List.length_map, List.length_append, List.length_cons] at hlength
    exact ⟨m, body, rfl, Reader.look_cons (by simp), hbody, by omega⟩
  constructor
  · intro hlegible d path items tail hitems
    obtain ⟨m, body, rfl, hread, hbody, hfuel⟩ := hentries d path items tail hitems
    obtain ⟨rest, hrest, hok⟩ :=
      (M.entriesFrom_block lines [] M.record.blank d path hbody hfuel).1 hlegible
    refine ⟨rest, hrest, ?_⟩
    rw [hread, Reader.placed, Record.entries, hok]
    rfl
  · intro hlegible d path items tail hitems
    obtain ⟨m, body, rfl, hread, hbody, hfuel⟩ := hentries d path items tail hitems
    obtain ⟨e, herror⟩ :=
      (M.entriesFrom_block lines [] M.record.blank d path hbody hfuel).2 hlegible
    refine ⟨.fault (e.place path m), ?_⟩
    rw [hread, Reader.placed, Record.entries, herror]
    rfl

/-- Where nothing is written, lines without content are read. -/
theorem reads_nothing {i : Item} {lines : List (Line V)}
    (hentry : (Vocabulary.block lines).hasEntry = false)
    (hi : i = .nothing ∨ i = .scalar ⟨none, [], .plain⟩) :
    M.record.read.Reads [i] (M.Legible [] lines) (M.result lines) := by
  obtain ⟨hlegible, hresult⟩ := M.of_not_hasEntry hentry
  constructor
  · intro _ d path items tail hitems
    obtain ⟨⟨j, m⟩, rest, rfl, rfl, hrest⟩ := List.map_eq_cons_iff.1 hitems
    rw [hresult]
    rcases hi with rfl | rfl <;> exact ⟨rest, hrest, rfl⟩
  · exact fun h => absurd hlegible h

/-- A written section is read as a record if its lines are legible. -/
theorem reads_section (further : Nat) (lines : List (Line V)) :
    M.record.read.Reads (Node.block further (Vocabulary.block lines)).items (M.Legible [] lines)
      (M.result lines) := by
  cases hentry : (Vocabulary.block lines).hasEntry with
  | true => simpa [Node.items, hentry] using M.reads_mapping lines
  | false => simpa [Node.items, hentry] using M.reads_nothing hentry (.inr rfl)

/-- The text of some lines is read as the record that they give if they are legible, and not at all if
they are not. -/
theorem ofText_block (lines : List (Line V)) :
    (M.Legible [] lines →
      M.record.ofText (String.ofList ((Vocabulary.block lines).chars 0)) = .ok (M.result lines)) ∧
    (¬ M.Legible [] lines →
      ∃ f, M.record.ofText (String.ofList ((Vocabulary.block lines).chars 0)) = .error f) := by
  obtain ⟨hitems, -, hfault, hcontinued⟩ := Document.ofText_chars (Vocabulary.block lines)
  have hreads : M.record.read.Reads (Vocabulary.block lines).document (M.Legible [] lines)
      (M.result lines) := by
    cases hentry : (Vocabulary.block lines).hasEntry with
    | true => simpa [Block.document, hentry] using M.reads_mapping lines
    | false => simpa [Block.document, hentry] using M.reads_nothing hentry (.inl rfl)
  rw [← List.append_nil (Block.document _)] at hitems
  unfold Record.ofText
  generalize Document.ofText (String.ofList ((Vocabulary.block lines).chars 0)) = d at *
  constructor
  · intro hlegible
    obtain ⟨rest, -, hok⟩ := hreads.ok hlegible d [] d.items [] hitems
    simp only [hok, hfault, hcontinued, Bool.false_eq_true, if_false]
  · intro hlegible
    obtain ⟨e, herror⟩ := hreads.error hlegible d [] d.items [] hitems
    exact ⟨_, by simp only [herror]; rfl⟩

/-! ## Fields of the result -/

/-- A field of the result is what the lines give to its key, and blank if they give nothing. -/
theorem get_result (k : V.Key) {lines : List (Line V)} (hnodup : (Vocabulary.keys lines).Nodup) :
    M.get k (M.result lines) =
      (Vocabulary.find k lines).elim (M.get k M.record.blank) (M.value k) := by
  unfold result
  generalize M.record.blank = a
  induction lines generalizing a with
  | nil => rfl
  | cons l lines ih =>
    rw [List.foldl_cons]
    cases l with
    | filler f => rw [Vocabulary.find_cons_of_ne (by simp [Line.key?])]; exact ih hnodup a
    | other key new v => rw [Vocabulary.find_cons_of_ne (by simp [Line.key?])]; exact ih hnodup a
    | known k' v =>
      obtain ⟨hnew, hnodup⟩ := List.nodup_cons.1 (show (k' :: Vocabulary.keys lines).Nodup from hnodup)
      have hrest := ih hnodup (M.put k' (M.value k' v) a)
      by_cases hk : k' = k
      -- the key does not come again, so the rest leaves the field as it is
      · subst hk
        rw [Vocabulary.find_of_notMem hnew] at hrest
        rw [Vocabulary.find_cons_self]
        exact hrest.trans (M.get_put k' _ a)
      · rw [Vocabulary.find_cons_of_ne (by simpa [Line.key?] using hk)]
        rw [M.get_put_of_ne k k' _ a hk] at hrest
        exact hrest

end Meaning

end Cutout.Yaml
