import Cutout.Codec.Tiff
import Cutout.Proofs.Codec.Yields

/-!
# Directories of notes

A directory is found by its place and its entries by theirs. `Exif.Says b n` and `Tiff.Says b n` say by
the places of the bytes that a directory gives the number `n` for the orientation: in the notes of a camera
the first entry counts that holds one number of sixteen bits for it, in a tagged image the last entry of a
known kind. The readers find just this number.
-/

namespace Cutout

namespace Bytes

/-- What is split off is the front, and there is that much. -/
theorem take?_eq_some_iff {n : Nat} {b front rest : Bytes} :
    take? n b = some (front, rest) ↔ n ≤ b.length ∧ b.take n = front ∧ b.drop n = rest := by
  unfold take?
  have hlength : (b.take n).length = n ↔ n ≤ b.length := by
    rw [List.length_take]
    omega
  dsimp only
  split
  · next h => simp [hlength.1 h]
  · next h => simp [mt hlength.2 h]

end Bytes

/-! ## Directories -/

namespace Exif

/-- The first four bytes of a directory. -/
def ByteOrder.mark : ByteOrder → Bytes
  | little => [0x49, 0x49, 42, 0]
  | big => [0x4D, 0x4D, 0, 42]

theorem byteOrder?_eq_some_iff {b : Bytes} {o : ByteOrder} : byteOrder? b = some o ↔ b = o.mark := by
  constructor
  · intro h
    unfold byteOrder? at h
    split at h <;> cases h <;> rfl
  · rintro rfl
    cases o <;> rfl

/-- A directory at a place: the byte order of its numbers, and how many entries it has. -/
structure Directory (b : Bytes) (o : ByteOrder) (place count : Nat) : Prop where
  marked : b.take 4 = o.mark
  placed : 8 ≤ b.length ∧ o.number ((b.drop 4).take 4) = place
  counted : place + 2 ≤ b.length ∧ o.number ((b.drop place).take 2) = count

/-- There is one directory in some bytes. -/
theorem Directory.unique {b : Bytes} {o o' : ByteOrder} {place place' count count' : Nat}
    (h : Directory b o place count) (h' : Directory b o' place' count') :
    o = o' ∧ place = place' ∧ count = count' := by
  have ho : o = o' := by
    have hmark := h.marked.symm.trans h'.marked
    cases o <;> cases o' <;> first | rfl | cases hmark
  subst ho
  have hplace : place = place' := h.placed.2.symm.trans h'.placed.2
  subst hplace
  exact ⟨rfl, rfl, h.counted.2.symm.trans h'.counted.2⟩

/-- What begins with an entry of a directory at a place. -/
def entryAt (b : Bytes) (place i : Nat) : Bytes :=
  b.drop (place + 2 + 12 * i)

/-- Some bytes begin with an entry that holds one number of sixteen bits as the orientation. -/
structure HoldsOrientation (o : ByteOrder) (e : Bytes) (n : Nat) : Prop where
  whole : 12 ≤ e.length
  tag : o.number (e.take 2) = 0x112
  kind : o.number ((e.drop 2).take 2) = 3
  count : o.number ((e.drop 4).take 4) = 1
  value : o.number ((e.drop 8).take 2) = n

/-- A directory of notes gives a number for the orientation: the first entry for it does. -/
def Says (b : Bytes) (n : Nat) : Prop :=
  ∃ o place count i, Directory b o place count ∧ i < count ∧
    HoldsOrientation o (entryAt b place i) n ∧
    ∀ j < i, ∀ m, ¬HoldsOrientation o (entryAt b place j) m

/-- The number that a directory of notes gives for the orientation, whether or not it is the value of
one. -/
def number? (b : Bytes) : Option Nat := do
  let (magic, rest) ← Bytes.take? 4 b
  let o ← byteOrder? magic
  let (place, _) ← Bytes.take? 4 rest
  let (count, entries) ← Bytes.take? 2 (b.drop (o.number place))
  findOrientation o (o.number count) entries

theorem orientation?_eq_bind (b : Bytes) :
    orientation? b = (number? b).bind Orientation.ofTag? := by
  simp [orientation?, number?, Option.bind_assoc]

/-- Reading on in the beginning of some bytes is reading on in the bytes. -/
theorem take_drop_take {n k width : Nat} (b : Bytes) (h : k + width ≤ n) :
    ((b.take n).drop k).take width = (b.drop k).take width := by
  rw [List.drop_take, List.take_take, Nat.min_eq_left (by omega)]

theorem findOrientation_succ (o : ByteOrder) (n v : Nat) (b : Bytes) :
    findOrientation o (n + 1) b = some v ↔
      HoldsOrientation o b v ∨
        (12 ≤ b.length ∧ ∀ m, ¬HoldsOrientation o b m) ∧ findOrientation o n (b.drop 12) = some v := by
  rw [findOrientation]
  cases htake : Bytes.take? 12 b with
  | none =>
    have hshort : ¬12 ≤ b.length := fun h =>
      absurd (Bytes.take?_eq_some_iff.2 ⟨h, rfl, rfl⟩) (by simp [htake])
    refine ⟨fun h => (nomatch h), ?_⟩
    rintro (h | ⟨⟨h, -⟩, -⟩)
    · exact absurd h.whole hshort
    · exact absurd h hshort
  | some r =>
    obtain ⟨e, rest⟩ := r
    obtain ⟨hlength, rfl, rfl⟩ := Bytes.take?_eq_some_iff.1 htake
    have htag : (b.take 12).take 2 = b.take 2 := by
      rw [List.take_take]
      rfl
    dsimp only
    rw [htag, take_drop_take b (by decide), take_drop_take b (by decide), take_drop_take b (by decide)]
    simp only [Bool.and_eq_true, decide_eq_true_eq, and_assoc]
    split
    · next hfields =>
      obtain ⟨htag, hkind, hcount⟩ := hfields
      constructor
      · intro h
        exact .inl ⟨hlength, htag, hkind, hcount, Option.some.inj h⟩
      · rintro (h | ⟨-, hnone, -⟩)
        · rw [h.value]
        · exact absurd ⟨hlength, htag, hkind, hcount, rfl⟩ (hnone _)
    · next hfields =>
      have hnone : ∀ m, ¬HoldsOrientation o b m := fun m h => hfields ⟨h.tag, h.kind, h.count⟩
      constructor
      · exact fun h => .inr ⟨hlength, hnone, h⟩
      · rintro (h | ⟨-, -, h⟩)
        · exact absurd h (hnone v)
        · exact h

/-- The entry that is found is the first one that holds an orientation. -/
theorem findOrientation_eq_some_iff (o : ByteOrder) (n v : Nat) (b : Bytes) :
    findOrientation o n b = some v ↔
      ∃ i < n, HoldsOrientation o (b.drop (12 * i)) v ∧
        ∀ j < i, ∀ m, ¬HoldsOrientation o (b.drop (12 * j)) m := by
  induction n generalizing b with
  | zero => simp [findOrientation]
  | succ n ih =>
    have hdrop (i : Nat) : (b.drop 12).drop (12 * i) = b.drop (12 * (i + 1)) := by
      rw [List.drop_drop]
      congr 1
      omega
    rw [findOrientation_succ, ih]
    simp only [hdrop]
    constructor
    · rintro (h | ⟨⟨-, hnone⟩, i, hi, h, hfirst⟩)
      · exact ⟨0, n.succ_pos, h, fun j hj => absurd hj j.not_lt_zero⟩
      · refine ⟨i + 1, Nat.succ_lt_succ hi, h, fun j hj => ?_⟩
        cases j with
        | zero => exact hnone
        | succ j => exact hfirst j (Nat.lt_of_succ_lt_succ hj)
    · rintro ⟨i, hi, h, hfirst⟩
      cases i with
      | zero => exact .inl h
      | succ i =>
        have hwhole := h.whole
        rw [List.length_drop] at hwhole
        exact .inr ⟨⟨by omega, hfirst 0 i.succ_pos⟩, i, Nat.lt_of_succ_lt_succ hi, h,
          fun j hj => hfirst (j + 1) (Nat.succ_lt_succ hj)⟩

theorem number?_eq_some_iff {b : Bytes} {n : Nat} : number? b = some n ↔ Says b n := by
  have hentries (place i : Nat) : (b.drop (place + 2)).drop (12 * i) = entryAt b place i := by
    rw [List.drop_drop, entryAt]
  constructor
  · intro h
    unfold number? at h
    simp only [Option.bind_eq_bind, Option.bind_eq_some_iff, Prod.exists, Bytes.take?_eq_some_iff,
      findOrientation_eq_some_iff] at h
    obtain ⟨magic, rest, ⟨-, rfl, rfl⟩, o, ho, place, _, ⟨hplace, rfl, -⟩, count, entries,
      ⟨hcount, rfl, rfl⟩, i, hi, h, hfirst⟩ := h
    rw [List.length_drop] at hplace hcount
    simp only [List.drop_drop, hentries] at h hfirst
    exact ⟨o, _, _, i, ⟨byteOrder?_eq_some_iff.1 ho, ⟨by omega, rfl⟩, by omega, rfl⟩, hi, h, hfirst⟩
  · rintro ⟨o, place, count, i, ⟨hmark, ⟨hlength, rfl⟩, hwhole, rfl⟩, hi, h, hfirst⟩
    unfold number?
    have hmagic : Bytes.take? 4 b = some (o.mark, b.drop 4) :=
      Bytes.take?_eq_some_iff.2 ⟨by omega, hmark, rfl⟩
    have hplace : Bytes.take? 4 (b.drop 4) = some ((b.drop 4).take 4, (b.drop 4).drop 4) :=
      Bytes.take?_eq_some_iff.2 ⟨by rw [List.length_drop]; omega, rfl, rfl⟩
    simp only [Option.bind_eq_bind, hmagic, hplace, Option.bind_some, byteOrder?_eq_some_iff.2 rfl]
    rw [Bytes.take?_eq_some_iff.2 ⟨by rw [List.length_drop]; omega, rfl, rfl⟩, Option.bind_some,
      findOrientation_eq_some_iff]
    simp only [List.drop_drop, hentries]
    exact ⟨i, hi, h, hfirst⟩

end Exif

/-- In what is written out for the numbers below `n`, the last entry with a property. -/
theorem find?_reverse_map_range {α : Type} (g : Nat → α) (p : α → Bool) (n : Nat) (a : α) :
    ((List.range n).map g).reverse.find? p = some a ↔
      ∃ i < n, g i = a ∧ p a = true ∧ ∀ j, i < j → j < n → p (g j) = false := by
  induction n with
  | zero => simp
  | succ n ih =>
    rw [List.range_succ, List.map_append, List.reverse_append]
    change (g n :: ((List.range n).map g).reverse).find? p = some a ↔ _
    cases hp : p (g n) with
    | true =>
      rw [List.find?_cons_of_pos hp]
      constructor
      · rintro h
        obtain rfl := Option.some.inj h
        exact ⟨n, n.lt_succ_self, rfl, hp, fun j hj hj' => by omega⟩
      · rintro ⟨i, hi, rfl, -, hlast⟩
        obtain rfl | hlt : i = n ∨ i < n := by omega
        · rfl
        · rw [hlast n hlt n.lt_succ_self] at hp
          cases hp
    | false =>
      rw [List.find?_cons_of_neg (by simp [hp]), ih]
      refine exists_congr fun i => ?_
      constructor
      · rintro ⟨hi, h, ha, hlast⟩
        refine ⟨by omega, h, ha, fun j hj hj' => ?_⟩
        obtain rfl | hlt : j = n ∨ j < n := by omega
        · exact hp
        · exact hlast j hj hlt
      · rintro ⟨hi, rfl, ha, hlast⟩
        obtain rfl | hlt : i = n ∨ i < n := by omega
        · rw [hp] at ha
          cases ha
        · exact ⟨hlt, rfl, ha, fun j hj hj' => hlast j hj (by omega)⟩

namespace Tiff

open Exif (ByteOrder Directory entryAt)

/-- Some bytes begin with an entry for the orientation, of a known kind. -/
def IsForOrientation (o : ByteOrder) (e : Bytes) : Prop :=
  o.number (e.take 2) = 0x112 ∧ (kindSize? (o.number ((e.drop 2).take 2))).isSome

/-- An entry of a file holds a single number: in its last four bytes if it is one of one, two or four
bytes, and elsewhere in the file if it is one of eight. -/
def Holds (o : ByteOrder) (b e : Bytes) (n : Nat) : Prop :=
  o.number ((e.drop 4).take 4) = 1 ∧
    (o.number ((e.drop 2).take 2) = 1 ∧ o.number ((e.drop 8).take 1) = n ∨
      o.number ((e.drop 2).take 2) = 3 ∧ o.number ((e.drop 8).take 2) = n ∨
      o.number ((e.drop 2).take 2) = 4 ∧ o.number ((e.drop 8).take 4) = n ∨
      o.number ((e.drop 2).take 2) = 16 ∧
        o.number ((b.drop (o.number ((e.drop 8).take 4))).take 8) = n)

/-- A directory gives a number for the orientation: the last entry for it holds the number. -/
def Says (b : Bytes) (n : Nat) : Prop :=
  ∃ o place count i, Directory b o place count ∧ i < count ∧
    IsForOrientation o (entryAt b place i) ∧
    (∀ j, i < j → j < count → ¬IsForOrientation o (entryAt b place j)) ∧
    Holds o b (entryAt b place i) n

theorem bytesAt_eq_ok_iff {b r : Bytes} {place n : Nat} :
    bytesAt b place n = .ok r ↔ n ≤ (b.drop place).length ∧ (b.drop place).take n = r := by
  unfold bytesAt
  cases htake : Bytes.take? n (b.drop place) with
  | none =>
    refine ⟨fun h => (nomatch h), fun ⟨h, _⟩ => ?_⟩
    rw [Bytes.take?_eq_some_iff.2 ⟨h, rfl, rfl⟩] at htake
    cases htake
  | some found =>
    obtain ⟨hlength, hfront, -⟩ := Bytes.take?_eq_some_iff.1 htake
    rw [hfront]
    exact ⟨fun h => ⟨hlength, Except.ok.inj h⟩, fun h => congrArg Except.ok h.2⟩

/-- The entry that some bytes begin with. -/
def entryOf (o : ByteOrder) (e : Bytes) : Entry where
  tag := o.number (e.take 2)
  kind := o.number ((e.drop 2).take 2)
  count := o.number ((e.drop 4).take 4)
  value := (e.drop 8).take 4

theorem readEntries_eq_ok {o : ByteOrder} {b : Bytes} {n place : Nat} {es : List Entry}
    (h : readEntries o b n place = .ok es) :
    es = (List.range n).map fun i => entryOf o (b.drop (place + 12 * i)) := by
  induction n generalizing place es with
  | zero =>
    unfold readEntries at h
    obtain ⟨-, -, h⟩ := bind_eq_ok_iff.1 h
    exact (Except.ok.inj h).symm
  | succ n ih =>
    unfold readEntries at h
    obtain ⟨e, he, h⟩ := bind_eq_ok_iff.1 h
    obtain ⟨rest, hrest, h⟩ := bind_eq_ok_iff.1 h
    obtain rfl := Except.ok.inj h
    obtain ⟨-, rfl⟩ := bytesAt_eq_ok_iff.1 he
    rw [ih hrest, List.range_succ_eq_map, List.map_cons, List.map_map]
    congr 1
    · -- an entry is read from its own twelve bytes
      change _ = entryOf o (b.drop place)
      unfold entryOf
      rw [Exif.take_drop_take _ (by decide), Exif.take_drop_take _ (by decide), List.take_take,
        List.drop_take]
      rfl
    · refine List.map_congr_left fun i _ => ?_
      change _ = entryOf o (b.drop (place + 12 * (i + 1)))
      rw [Nat.mul_succ, Nat.add_comm (12 * i), Nat.add_assoc]

theorem readFile_eq_ok {b : Bytes} {f : File} (h : readFile b = .ok f) :
    ∃ place count, Directory b f.order place count ∧ f.bytes = b ∧
      f.entries = (List.range count).map fun i => entryOf f.order (entryAt b place i) := by
  unfold readFile at h
  obtain ⟨magic, hmagic, h⟩ := bind_eq_ok_iff.1 h
  obtain ⟨-, rfl⟩ := bytesAt_eq_ok_iff.1 hmagic
  split at h
  · cases h
  next o ho =>
  obtain ⟨place, hplace, h⟩ := bind_eq_ok_iff.1 h
  obtain ⟨count, hcount, h⟩ := bind_eq_ok_iff.1 h
  obtain ⟨es, hes, h⟩ := bind_eq_ok_iff.1 h
  obtain rfl := Except.ok.inj h
  obtain ⟨hplaced, rfl⟩ := bytesAt_eq_ok_iff.1 hplace
  obtain ⟨hcounted, rfl⟩ := bytesAt_eq_ok_iff.1 hcount
  rw [List.length_drop] at hplaced hcounted
  have hwhole : o.number ((b.drop 4).take 4) + 2 ≤ b.length := by omega
  exact ⟨_, _, ⟨Exif.byteOrder?_eq_some_iff.1 ho, ⟨by omega, rfl⟩, hwhole, rfl⟩, rfl,
    readEntries_eq_ok hes⟩

variable {b : Bytes} {f : File}

/-- The entry that counts is the last one. -/
theorem entry?_eq_some_iff {place count : Nat} {e : Entry}
    (h : f.entries = (List.range count).map fun i => entryOf f.order (entryAt b place i)) :
    f.entry? Exif.orientationNote = some e ↔
      ∃ i < count, entryOf f.order (entryAt b place i) = e ∧
        IsForOrientation f.order (entryAt b place i) ∧
        ∀ j, i < j → j < count → ¬IsForOrientation f.order (entryAt b place j) := by
  have hfor (e : Bytes) :
      ((entryOf f.order e).tag == Exif.orientationNote && (kindSize? (entryOf f.order e).kind).isSome) =
          true ↔ IsForOrientation f.order e := by
    rw [Bool.and_eq_true, beq_iff_eq]
    rfl
  unfold File.entry?
  rw [h, find?_reverse_map_range]
  refine exists_congr fun i => and_congr_right fun _ => ?_
  constructor
  · rintro ⟨rfl, hi, hlast⟩
    exact ⟨rfl, (hfor _).1 hi, fun j hj hj' hj'' => absurd ((hfor _).2 hj'') (by simp [hlast j hj hj'])⟩
  · rintro ⟨rfl, hi, hlast⟩
    exact ⟨rfl, (hfor _).2 hi, fun j hj hj' => Bool.eq_false_iff.2 fun hj'' => hlast j hj hj' ((hfor _).1 hj'')⟩

/-- The single number that is read from an entry. -/
theorem noteOf_eq_ok {e : Entry} {n? : Option Nat} (h : f.noteOf e = .ok n?) (n : Nat) :
    n? = some n ↔ e.count = 1 ∧
      (e.kind = 1 ∧ f.order.number (e.value.take 1) = n ∨ e.kind = 3 ∧ f.order.number (e.value.take 2) = n ∨
        e.kind = 4 ∧ f.order.number (e.value.take 4) = n ∨
        e.kind = 16 ∧ f.order.number ((f.bytes.drop (f.order.number e.value)).take 8) = n) := by
  obtain ⟨tag, kind, count, value⟩ := e
  unfold File.noteOf at h
  dsimp only at h ⊢
  split at h
  · next htext =>
    subst htext
    obtain ⟨-, -, rfl⟩ := map_eq_ok_iff.1 h
    simp [textKind]
  · obtain ⟨data, hdata, rfl⟩ := map_eq_ok_iff.1 h
    by_cases hcount : count = 1
    · subst hcount
      by_cases hnumber : kind = 1 ∨ kind = 3 ∨ kind = 4 ∨ kind = 16
      · obtain rfl | rfl | rfl | rfl := hnumber
        · obtain rfl := Except.ok.inj hdata
          simp [numberKinds, kindSize?]
        · obtain rfl := Except.ok.inj hdata
          simp [numberKinds, kindSize?]
        · obtain rfl := Except.ok.inj hdata
          simp [numberKinds, kindSize?]
        · obtain ⟨-, rfl⟩ := bytesAt_eq_ok_iff.1 hdata
          simp [numberKinds, kindSize?]
      · have hkind : numberKinds.contains kind = false := by
          simp only [numberKinds, List.contains_cons, List.contains_nil]
          simp only [not_or] at hnumber
          simp [hnumber]
        simp only [hkind]
        grind
    · simp [hcount]

theorem holds_iff {o : ByteOrder} {b e : Bytes} {n : Nat} :
    Holds o b e n ↔ (entryOf o e).count = 1 ∧
      ((entryOf o e).kind = 1 ∧ o.number ((entryOf o e).value.take 1) = n ∨
        (entryOf o e).kind = 3 ∧ o.number ((entryOf o e).value.take 2) = n ∨
        (entryOf o e).kind = 4 ∧ o.number ((entryOf o e).value.take 4) = n ∨
        (entryOf o e).kind = 16 ∧ o.number ((b.drop (o.number (entryOf o e).value)).take 8) = n) := by
  simp only [Holds, entryOf, List.take_take, Nat.min_self]
  rfl

/-- What is read from a directory is what it gives. -/
theorem note?_says {n? : Option Nat} (hf : readFile b = .ok f)
    (hn : f.note? Exif.orientationNote = .ok n?) (n : Nat) : n? = some n ↔ Says b n := by
  obtain ⟨place, count, hdirectory, rfl, hentries⟩ := readFile_eq_ok hf
  unfold File.note? at hn
  constructor
  · rintro rfl
    split at hn
    · cases hn
    · next e he =>
      obtain ⟨i, hi, rfl, hfor, hlast⟩ := (entry?_eq_some_iff hentries).1 he
      exact ⟨f.order, place, count, i, hdirectory, hi, hfor, hlast,
        holds_iff.2 ((noteOf_eq_ok hn n).1 rfl)⟩
  · rintro ⟨o, place', count', i, hdirectory', hi, hfor, hlast, hholds⟩
    obtain ⟨rfl, rfl, rfl⟩ := hdirectory.unique hdirectory'
    rw [(entry?_eq_some_iff hentries).2 ⟨i, hi, rfl, hfor, hlast⟩] at hn
    exact (noteOf_eq_ok hn n).2 (holds_iff.1 hholds)

end Tiff

end Cutout
