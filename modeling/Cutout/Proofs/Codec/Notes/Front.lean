import Cutout.Codec.Jpeg.Decode
import Cutout.Codec.Png.Decode
import Cutout.Codec.Webp.Decode
import Cutout.Proofs.Codec.Notes.Directory

/-!
# Where notes stand

Three formats keep the notes of a camera in a segment or a chunk of their own. What stands in front of the
pixels is taken apart by inductive descriptions of the bytes alone, which fit in one way only; `HasNotes`
says which part holds the notes. The last segment of a photograph counts, the first chunk with a right
checksum, and the first chunk with the name for notes.
-/

namespace Cutout

/-! ## Photographs -/

namespace Jpeg

/-- What stands in front of the first scan: segments with a marker and data, and bytes between them that
say nothing. -/
inductive Front : Bytes → List (UInt8 × Bytes) → Prop
  | scan (b : Bytes) : Front (0xFF :: 0xDA :: b) []
  | segment {marker : UInt8} {size data b : Bytes} {segments : List (UInt8 × Bytes)}
      (hmarker : marker ≠ 0xFF ∧ marker ≠ 0 ∧ marker ≠ 0xD9 ∧ marker ≠ 0xDA)
      (hsize : size.length = 2 ∧ Bytes.toNatBE size = data.length + 2) (h : Front b segments) :
      Front (0xFF :: marker :: (size ++ data ++ b)) ((marker, data) :: segments)
  | filling {b : Bytes} {segments : List (UInt8 × Bytes)} (h : Front (0xFF :: b) segments) :
      Front (0xFF :: 0xFF :: b) segments
  | escape {b : Bytes} {segments : List (UInt8 × Bytes)} (h : Front b segments) :
      Front (0xFF :: 0 :: b) segments
  | between {x : UInt8} {b : Bytes} {segments : List (UInt8 × Bytes)} (hx : x ≠ 0xFF)
      (h : Front b segments) : Front (x :: b) segments

/-- The notes in a segment. -/
def notesOf (segment : UInt8 × Bytes) : Option Bytes :=
  if segment.1 = 0xE1 then Bytes.after? notesLead segment.2 else none

/-- The last notes in some segments. -/
def lastNotes : List (UInt8 × Bytes) → Option Bytes
  | [] => none
  | segment :: segments => (lastNotes segments).or (notesOf segment)

/-- The notes of a file: the last segment for them holds them behind their lead. -/
def HasNotes (b notes : Bytes) : Prop :=
  ∃ before after, Front (b.drop 2) (before ++ (0xE1, notesLead ++ notes) :: after) ∧
    ∀ segment ∈ after, ∀ other, segment ≠ (0xE1, notesLead ++ other)

/-- What has a length in front of it can be told from what follows. -/
theorem parts_unique {size data b size' data' b' : Bytes} {k : Nat} (hsize : size.length = size'.length)
    (hdata : Bytes.toNatBE size = data.length + k) (hdata' : Bytes.toNatBE size' = data'.length + k)
    (h : size ++ data ++ b = size' ++ data' ++ b') : data = data' ∧ b = b' := by
  rw [List.append_assoc, List.append_assoc] at h
  obtain ⟨rfl, hrest⟩ := List.append_inj h hsize
  exact List.append_inj hrest (by omega)

theorem Front.unique {b : Bytes} {s s' : List (UInt8 × Bytes)} (h : Front b s) (h' : Front b s') :
    s = s' := by
  induction h generalizing s' with
  | scan b =>
    cases h' with
    | scan => rfl
    | segment hmarker => exact absurd rfl hmarker.2.2.2
    | between hx => exact absurd rfl hx
  | filling h ih =>
    cases h' with
    | segment hmarker => exact absurd rfl hmarker.1
    | filling h' => exact ih h'
    | between hx => exact absurd rfl hx
  | escape h ih =>
    cases h' with
    | segment hmarker => exact absurd rfl hmarker.2.1
    | escape h' => exact ih h'
    | between hx => exact absurd rfl hx
  | between hx h ih =>
    cases h' with
    | between _ h' => exact ih h'
    | _ => exact absurd rfl hx
  | @segment marker size data b segments hmarker hsize h ih =>
    generalize hwhole : 0xFF :: marker :: (size ++ data ++ b) = whole at h'
    cases h' with
    | scan => exact absurd (List.cons.inj (List.cons.inj hwhole).2).1 hmarker.2.2.2
    | filling => exact absurd (List.cons.inj (List.cons.inj hwhole).2).1 hmarker.1
    | escape => exact absurd (List.cons.inj (List.cons.inj hwhole).2).1 hmarker.2.1
    | between hx => exact absurd (List.cons.inj hwhole).1.symm hx
    | segment hmarker' hsize' h' =>
      obtain ⟨rfl, hrest⟩ := List.cons.inj (List.cons.inj hwhole).2
      obtain ⟨rfl, rfl⟩ := parts_unique (hsize.1.trans hsize'.1.symm) hsize.2 hsize'.2 hrest
      rw [ih h']

theorem segment_eq_ok {b data rest : Bytes} (h : segment b = .ok (data, rest)) :
    ∃ size : Bytes, size.length = 2 ∧ Bytes.toNatBE size = data.length + 2 ∧ b = size ++ data ++ rest := by
  obtain ⟨⟨n, b'⟩, hnumber, hrest⟩ := bind_eq_ok_iff.1 h
  obtain ⟨⟨size, b''⟩, hsize, hn⟩ := bind_eq_ok_iff.1 hnumber
  obtain ⟨rfl, rfl⟩ := Prod.mk.inj (Except.ok.inj hn)
  obtain ⟨rfl, hlength⟩ := Bytes.eq_append_of_take? (Reading.bytes_eq_ok_iff.1 hsize)
  dsimp only at hrest
  split at hrest
  · cases hrest
  next htwo =>
  obtain ⟨rfl, hdata⟩ := Bytes.eq_append_of_take? (Reading.bytes_eq_ok_iff.1 hrest)
  exact ⟨size, hlength, by omega, (List.append_assoc _ _ _).symm⟩

theorem codes_notes {fuel : Nat} {p q : Preface} {b : Bytes} (h : readCodes fuel p b = .ok q) :
    q.notes = p.notes := by
  induction fuel generalizing p b with
  | zero =>
    cases b with
    | nil => exact congrArg Preface.notes (Except.ok.inj h).symm
    | cons x b => cases h
  | succ fuel ih =>
    cases b with
    | nil => exact congrArg Preface.notes (Except.ok.inj h).symm
    | cons x b =>
      unfold readCodes at h
      split at h
      · cases h
      dsimp only at h
      split at h
      · cases h
      split at h
      · have hq := ih h
        exact hq
      · have hq := ih h
        exact hq

/-- A segment for notes replaces the notes, and no other one touches them. -/
theorem withSegment_notes {p q : Preface} {marker : UInt8} {data : Bytes}
    (h : p.withSegment marker.toNat data = .ok q) : q.notes = (notesOf (marker, data)).or p.notes := by
  have hother (hmarker : marker.toNat ≠ 0xE1) : notesOf (marker, data) = none :=
    if_neg fun heq => hmarker (congrArg UInt8.toNat heq)
  unfold Preface.withSegment at h
  split at h
  · next hscales =>
    obtain ⟨t, -, ht⟩ := bind_eq_ok_iff.1 h
    obtain rfl := Except.ok.inj ht
    rw [hother (by omega)]
    rfl
  split at h
  · next hcodes =>
    rw [hother (by omega), codes_notes h]
    rfl
  split at h
  · next hframe =>
    have hmarker : marker.toNat ≠ 0xE1 := by
      rintro heq
      rw [heq] at hframe
      exact absurd hframe (by decide)
    split at h
    · cases h
    · obtain ⟨f, -, hf⟩ := bind_eq_ok_iff.1 h
      obtain rfl := Except.ok.inj hf
      rw [hother hmarker]
      rfl
  split at h
  · cases h
  split at h
  · next hinterval =>
    rw [hother (by omega)]
    split at h
    · obtain rfl := Except.ok.inj h
      rfl
    · cases h
  split at h
  · next hnotes =>
    have hof : notesOf (marker, data) = Bytes.after? notesLead data :=
      if_pos (UInt8.toNat_inj.1 hnotes)
    rw [hof]
    split at h
    · next notes heq =>
      obtain rfl := Except.ok.inj h
      rw [heq]
      rfl
    · next heq =>
      obtain rfl := Except.ok.inj h
      rw [heq]
      rfl
  next hnotes =>
  rw [hother hnotes]
  split at h
  · split at h
    · obtain rfl := Except.ok.inj h
      rfl
    · obtain rfl := Except.ok.inj h
      rfl
  · obtain rfl := Except.ok.inj h
    rfl

/-- The segments in front of the scan are taken in one by one. -/
theorem readPreface_front {fuel : Nat} {p q : Preface} {b : Bytes} {scan : Scan × Bytes}
    (h : readPreface fuel p b = .ok (q, some scan)) :
    ∃ segments, Front b segments ∧ q.notes = (lastNotes segments).or p.notes := by
  induction fuel generalizing p b with
  | zero => cases h
  | succ fuel ih =>
    unfold readPreface at h
    split at h
    · next marker b =>
      split at h
      · next hmarker =>
        subst hmarker
        obtain ⟨segments, hfront, hnotes⟩ := ih h
        exact ⟨segments, .filling hfront, hnotes⟩
      split at h
      · next hmarker =>
        subst hmarker
        obtain ⟨segments, hfront, hnotes⟩ := ih h
        exact ⟨segments, .escape hfront, hnotes⟩
      split at h
      · cases h
      next hfill hescape hend =>
      obtain ⟨⟨data, rest⟩, hsegment, hsteps⟩ := bind_eq_ok_iff.1 h
      clear h
      obtain ⟨size, hlength, hsize, rfl⟩ := segment_eq_ok hsegment
      dsimp only at hsteps
      split at hsteps
      · next hmarker =>
        subst hmarker
        obtain ⟨s, -, hsteps⟩ := bind_eq_ok_iff.1 hsteps
        obtain ⟨rfl, -⟩ := Prod.mk.inj (Except.ok.inj hsteps)
        exact ⟨[], .scan _, rfl⟩
      · next hmarker =>
        obtain ⟨p', hp', hrest⟩ := bind_eq_ok_iff.1 hsteps
        obtain ⟨segments, hfront, hnotes⟩ := ih hrest
        refine ⟨_, .segment ⟨hfill, hescape, hend, hmarker⟩ ⟨hlength, hsize⟩ hfront, ?_⟩
        rw [hnotes, withSegment_notes hp', lastNotes, Option.or_assoc]
    · next x b hx =>
      obtain ⟨segments, hfront, hnotes⟩ := ih h
      refine ⟨segments, .between ?_ hfront, hnotes⟩
      -- a single byte of this kind ends the file
      rintro rfl
      cases b with
      | cons marker b => exact absurd rfl (hx marker b rfl)
      | nil =>
        cases fuel with
        | zero => cases h
        | succ fuel => cases h
    · cases h

theorem notesOf_eq_some_iff {segment : UInt8 × Bytes} {notes : Bytes} :
    notesOf segment = some notes ↔ segment = (0xE1, notesLead ++ notes) := by
  obtain ⟨marker, data⟩ := segment
  unfold notesOf
  constructor
  · intro h
    split at h
    · next hmarker =>
      rw [show marker = 0xE1 from hmarker, show data = _ from Bytes.eq_append_of_after? h]
    · cases h
  · rintro ⟨⟩
    exact (if_pos rfl).trans (Bytes.after?_append notesLead notes)

theorem notesOf_eq_none_iff {segment : UInt8 × Bytes} :
    notesOf segment = none ↔ ∀ notes, segment ≠ (0xE1, notesLead ++ notes) := by
  simp only [Option.eq_none_iff_forall_ne_some, ne_eq, notesOf_eq_some_iff]

theorem lastNotes_eq_none_iff {segments : List (UInt8 × Bytes)} :
    lastNotes segments = none ↔ ∀ segment ∈ segments, notesOf segment = none := by
  induction segments with
  | nil => simp [lastNotes]
  | cons segment segments ih => simp [lastNotes, Option.or_eq_none_iff, ih, and_comm]

theorem lastNotes_eq_some_iff {segments : List (UInt8 × Bytes)} {notes : Bytes} :
    lastNotes segments = some notes ↔
      ∃ before after, segments = before ++ (0xE1, notesLead ++ notes) :: after ∧
        ∀ segment ∈ after, ∀ other, segment ≠ (0xE1, notesLead ++ other) := by
  simp only [← notesOf_eq_none_iff]
  induction segments with
  | nil => simp [lastNotes]
  | cons segment segments ih =>
    rw [lastNotes, Option.or_eq_some_iff, ih, lastNotes_eq_none_iff, notesOf_eq_some_iff]
    constructor
    · rintro (⟨before, after, rfl, hafter⟩ | ⟨hnone, rfl⟩)
      · exact ⟨segment :: before, after, rfl, hafter⟩
      · exact ⟨[], segments, rfl, hnone⟩
    · rintro ⟨before, after, heq, hafter⟩
      cases before with
      | nil =>
        obtain ⟨rfl, rfl⟩ := List.cons.inj heq
        exact .inr ⟨hafter, rfl⟩
      | cons _ before =>
        obtain ⟨rfl, rfl⟩ := List.cons.inj heq
        exact .inl ⟨before, after, rfl, hafter⟩

/-- The notes that are taken in are those that the file has. -/
theorem readPreface_notes {b : Bytes} {p : Preface} {fuel : Nat} {scan : Scan × Bytes}
    (h : readPreface fuel .empty (b.drop 2) = .ok (p, some scan)) (notes : Bytes) :
    p.notes = some notes ↔ HasNotes b notes := by
  obtain ⟨segments, hfront, hnotes⟩ := readPreface_front h
  rw [hnotes, show Preface.empty.notes = none from rfl, Option.or_none, lastNotes_eq_some_iff]
  constructor
  · rintro ⟨before, after, rfl, hafter⟩
    exact ⟨before, after, hfront, hafter⟩
  · rintro ⟨before, after, hfront', hafter⟩
    exact ⟨before, after, hfront.unique hfront', hafter⟩

end Jpeg

/-! ## Pictures in chunks with checksums -/

namespace Png

/-- A chunk as it is stored: its kind, its data and its checksum. -/
@[ext]
structure StoredChunk where
  kind : Kind
  data : Bytes
  sum : Bytes

/-- What stands in front of the first chunk with pixels. -/
inductive Front : Bytes → List StoredChunk → Prop
  | pixels {size : Bytes} (hsize : size.length = 4) (b : Bytes) : Front (size ++ pixelsKind ++ b) []
  | chunk {size b : Bytes} {c : StoredChunk} {cs : List StoredChunk} (hkind : c.kind.length = 4)
      (hother : c.kind ≠ pixelsKind) (hsize : size.length = 4 ∧ Bytes.toNatBE size = c.data.length)
      (hsum : c.sum.length = 4) (h : Front b cs) :
      Front (size ++ c.kind ++ c.data ++ c.sum ++ b) (c :: cs)

/-- A chunk for notes whose checksum is right. -/
def StoredChunk.IsNotes (c : StoredChunk) : Prop :=
  c.kind = notesKind ∧ c.sum = check c.kind c.data

/-- The notes of a file: the first chunk for them whose checksum is right. -/
def HasNotes (b notes : Bytes) : Prop :=
  ∃ before c after, Front (b.drop 8) (before ++ c :: after) ∧ c.IsNotes ∧ c.data = notes ∧
    ∀ c ∈ before, ¬c.IsNotes

theorem Front.unique {b : Bytes} {cs cs' : List StoredChunk} (h : Front b cs) (h' : Front b cs') :
    cs = cs' := by
  induction h generalizing cs' with
  | @pixels size hsize b =>
    generalize hwhole : size ++ pixelsKind ++ b = whole at h'
    cases h' with
    | pixels => rfl
    | chunk hkind hother hsize' =>
      simp only [List.append_assoc] at hwhole
      obtain ⟨-, hrest⟩ := List.append_inj hwhole (hsize.trans hsize'.1.symm)
      exact absurd (List.append_inj hrest hkind.symm).1.symm hother
  | @chunk size b c cs hkind hother hsize hsum h ih =>
    generalize hwhole : size ++ c.kind ++ c.data ++ c.sum ++ b = whole at h'
    cases h' with
    | pixels hsize' =>
      simp only [List.append_assoc] at hwhole
      obtain ⟨-, hrest⟩ := List.append_inj hwhole (hsize.1.trans hsize'.symm)
      exact absurd (List.append_inj hrest hkind).1 hother
    | @chunk size' b' c' cs' hkind' _ hsize' hsum' h' =>
      simp only [List.append_assoc] at hwhole
      obtain ⟨hsizes, hbehindSize⟩ := List.append_inj hwhole (hsize.1.trans hsize'.1.symm)
      obtain ⟨hkinds, hbehindKind⟩ := List.append_inj hbehindSize (hkind.trans hkind'.symm)
      rw [hsizes] at hsize
      obtain ⟨hdata, hbehindData⟩ := List.append_inj hbehindKind (hsize.2.symm.trans hsize'.2)
      obtain ⟨hsums, rfl⟩ := List.append_inj hbehindData (hsum.trans hsum'.symm)
      rw [ih h', StoredChunk.ext hkinds hdata hsums]

theorem take_eq_ok_iff {n : Nat} {b front rest : Bytes} :
    take n b = .ok (front, rest) ↔ b = front ++ rest ∧ front.length = n := by
  unfold take
  constructor
  · intro h
    split at h
    · next r hr =>
      obtain rfl := Except.ok.inj h
      exact Bytes.eq_append_of_take? hr
    · cases h
  · rintro ⟨rfl, hlength⟩
    rw [Bytes.take?_append hlength]

theorem chunkStart_eq_ok {b rest : Bytes} {n : Nat} {k : Kind} (h : chunkStart b = .ok (n, k, rest)) :
    ∃ size : Bytes, size.length = 4 ∧ Bytes.toNatBE size = n ∧ k.length = 4 ∧ b = size ++ k ++ rest := by
  obtain ⟨⟨size, b'⟩, hsize, hsteps⟩ := bind_eq_ok_iff.1 h
  obtain ⟨⟨k', rest'⟩, hkind, hresult⟩ := bind_eq_ok_iff.1 hsteps
  obtain ⟨rfl, hlength⟩ := take_eq_ok_iff.1 hsize
  obtain ⟨rfl, hlength'⟩ := take_eq_ok_iff.1 hkind
  cases hresult
  exact ⟨size, hlength, rfl, hlength', (List.append_assoc _ _ _).symm⟩

theorem chunkBody_eq_ok {n : Nat} {k : Kind} {b data rest : Bytes} {intact : Bool}
    (h : chunkBody n k b = .ok (data, intact, rest)) :
    ∃ sum : Bytes, sum.length = 4 ∧ data.length = n ∧ intact = (sum == check k data) ∧
      b = data ++ sum ++ rest := by
  obtain ⟨⟨data', b'⟩, hdata, hsteps⟩ := bind_eq_ok_iff.1 h
  obtain ⟨⟨sum, rest'⟩, hsum, hresult⟩ := bind_eq_ok_iff.1 hsteps
  obtain ⟨rfl, hlength⟩ := take_eq_ok_iff.1 hdata
  obtain ⟨rfl, hlength'⟩ := take_eq_ok_iff.1 hsum
  cases hresult
  exact ⟨sum, hlength', hlength, rfl, (List.append_assoc _ _ _).symm⟩

/-- A chunk for notes with the right checksum, as the reader sees it. -/
def StoredChunk.isNotes (c : StoredChunk) : Bool :=
  c.kind == notesKind && c.sum == check c.kind c.data

theorem StoredChunk.isNotes_iff {c : StoredChunk} : c.isNotes = true ↔ c.IsNotes := by
  rw [isNotes, Bool.and_eq_true, beq_iff_eq, beq_iff_eq]
  rfl

/-- The data of the first chunk with notes. -/
def firstNotes (cs : List StoredChunk) : Option Bytes :=
  (cs.find? StoredChunk.isNotes).map StoredChunk.data

theorem firstNotes_cons (c : StoredChunk) (cs : List StoredChunk) :
    firstNotes (c :: cs) = (if c.isNotes then some c.data else none).or (firstNotes cs) := by
  unfold firstNotes
  rw [List.find?_cons]
  cases c.isNotes <;> rfl

/-- Notes are kept, and a chunk for them is taken in if there are none. -/
theorem withChunk_notes {p q : Preface} {c : StoredChunk}
    (h : p.withChunk c.kind c.data (c.sum == check c.kind c.data) = .ok q) :
    q.notes = p.notes.or (if c.isNotes then some c.data else none) := by
  obtain ⟨k, data, sum⟩ := c
  have hother (hk : k ≠ notesKind) : StoredChunk.isNotes ⟨k, data, sum⟩ = false := by
    simp [StoredChunk.isNotes, hk]
  unfold Preface.withChunk at h
  dsimp only at h ⊢
  split at h
  · next hcritical =>
    have hk : k ≠ notesKind := by
      rintro rfl
      exact absurd hcritical (by decide)
    rw [hother hk]
    split at h
    · cases h
    split at h
    · split at h
      · cases h
      · obtain rfl := Except.ok.inj h
        simp
    split at h
    · cases h
    · cases h
  split at h
  · next hdamaged =>
    obtain rfl := Except.ok.inj h
    simp only [Bool.not_eq_true'] at hdamaged
    simp [StoredChunk.isNotes, hdamaged]
  split at h
  · next hk =>
    subst hk
    obtain rfl := Except.ok.inj h
    rw [hother (by decide)]
    unfold Preface.withTransparency
    dsimp only
    split <;> split <;> simp
  next hintact _ =>
  split at h
  · next hnotes =>
    simp only [Bool.and_eq_true, decide_eq_true_eq, Option.isNone_iff_eq_none] at hnotes
    obtain ⟨rfl, hnone⟩ := hnotes
    obtain rfl := Except.ok.inj h
    simp only [Bool.not_eq_true', Bool.not_eq_false] at hintact
    simp [StoredChunk.isNotes, hintact, hnone]
  · next hnotes =>
    obtain rfl := Except.ok.inj h
    cases hp : p.notes with
    | some notes => simp
    | none =>
      have hk : k ≠ notesKind := by
        rintro rfl
        exact hnotes (by simp [hp])
      simp [hother hk]

/-- The chunks in front of the pixels are taken in one by one. -/
theorem readPreface_front {fuel n : Nat} {p q : Preface} {b rest : Bytes}
    (h : readPreface fuel p b = .ok (q, n, rest)) :
    ∃ cs, Front b cs ∧ q.notes = p.notes.or (firstNotes cs) := by
  induction fuel generalizing p b with
  | zero => cases h
  | succ fuel ih =>
    unfold readPreface at h
    obtain ⟨⟨n', k, b'⟩, hstart, hrest⟩ := bind_eq_ok_iff.1 h
    obtain ⟨size, hsize, rfl, hkind, rfl⟩ := chunkStart_eq_ok hstart
    dsimp only at hrest
    split at hrest
    · next hpixels =>
      subst hpixels
      obtain ⟨rfl, -⟩ := Prod.mk.inj (Except.ok.inj hrest)
      exact ⟨[], .pixels hsize b', by simp [firstNotes]⟩
    split at hrest
    · cases hrest
    next hother _ =>
    obtain ⟨⟨data, intact, b''⟩, hbody, hsteps⟩ := bind_eq_ok_iff.1 hrest
    obtain ⟨sum, hsum, hlength, rfl, rfl⟩ := chunkBody_eq_ok hbody
    obtain ⟨p', hp', hnext⟩ := bind_eq_ok_iff.1 hsteps
    obtain ⟨cs, hfront, hnotes⟩ := ih hnext
    refine ⟨⟨k, data, sum⟩ :: cs, ?_, ?_⟩
    · have h := Front.chunk (c := ⟨k, data, sum⟩) hkind hother ⟨hsize, hlength.symm⟩ hsum hfront
      simpa only [List.append_assoc] using h
    · rw [hnotes, withChunk_notes (c := ⟨k, data, sum⟩) hp', Option.or_assoc, ← firstNotes_cons]

theorem firstNotes_eq_some_iff {cs : List StoredChunk} {notes : Bytes} :
    firstNotes cs = some notes ↔
      ∃ before c after, cs = before ++ c :: after ∧ c.IsNotes ∧ c.data = notes ∧
        ∀ c ∈ before, ¬c.IsNotes := by
  simp only [firstNotes, Option.map_eq_some_iff, List.find?_eq_some_iff_append, StoredChunk.isNotes_iff,
    Bool.not_eq_true', ← Bool.not_eq_true]
  constructor
  · rintro ⟨c, ⟨hc, before, after, rfl, hbefore⟩, rfl⟩
    exact ⟨before, c, after, rfl, hc, rfl, hbefore⟩
  · rintro ⟨before, c, after, rfl, hc, rfl, hbefore⟩
    exact ⟨c, ⟨hc, before, after, rfl, hbefore⟩, rfl⟩

/-- What is kept of the notes of a file is the data of the first chunk for them. -/
theorem preface_notes {b rest : Bytes} {n : Nat} {p : Preface} (h : preface b = .ok (p, n, rest))
    (notes : Bytes) : p.notes = some notes ↔ HasNotes b notes := by
  obtain ⟨⟨lead, file⟩, hlead, hsteps⟩ := bind_eq_ok_iff.1 h
  obtain ⟨rfl, hlength⟩ := take_eq_ok_iff.1 hlead
  obtain ⟨⟨m, k, body⟩, hstart, hbehind⟩ := bind_eq_ok_iff.1 hsteps
  obtain ⟨size, hsize, rfl, hkind, rfl⟩ := chunkStart_eq_ok hstart
  dsimp only at hbehind
  split at hbehind
  · cases hbehind
  next hheader =>
  rw [ne_eq, Decidable.not_not] at hheader
  obtain ⟨⟨data, intact, others⟩, hbody, hrest⟩ := bind_eq_ok_iff.1 hbehind
  obtain ⟨sum, hsum, hdata, rfl, rfl⟩ := chunkBody_eq_ok hbody
  dsimp only at hrest
  split at hrest
  · cases hrest
  obtain ⟨header, -, hheaders⟩ := bind_eq_ok_iff.1 hrest
  obtain ⟨⟨kept, m', pixels⟩, hread, hend⟩ := bind_eq_ok_iff.1 hheaders
  obtain ⟨cs, hfront, hnotes⟩ := readPreface_front hread
  have hp : kept = p := by
    dsimp only at hend
    split at hend
    · cases hend
    · exact (Prod.mk.inj (Except.ok.inj hend)).1
  -- the header is a chunk as well, and not one with notes
  have hwhole : Front (size ++ k ++ data ++ sum ++ others) (⟨k, data, sum⟩ :: cs) := by
    refine .chunk (c := ⟨k, data, sum⟩) hkind ?_ ⟨hsize, hdata.symm⟩ hsum hfront
    change k ≠ pixelsKind
    rw [hheader]
    decide
  have hnone : StoredChunk.isNotes ⟨k, data, sum⟩ = false := by
    rw [StoredChunk.isNotes, hheader]
    rfl
  have hkept : p.notes = firstNotes (⟨k, data, sum⟩ :: cs) := by
    rw [← hp, hnotes, firstNotes_cons, hnone]
    rfl
  have hdrop : (lead ++ (size ++ k ++ (data ++ sum ++ others))).drop 8 =
      size ++ k ++ data ++ sum ++ others := by
    rw [List.drop_left' hlength]
    simp only [List.append_assoc]
  unfold HasNotes
  rw [hkept, firstNotes_eq_some_iff, hdrop]
  constructor
  · rintro ⟨before, c, after, heq, hc⟩
    exact ⟨before, c, after, heq ▸ hwhole, hc⟩
  · rintro ⟨before, c, after, hfront', hc⟩
    exact ⟨before, c, after, hwhole.unique hfront', hc⟩

end Png

/-! ## Pictures in named chunks -/

namespace Webp

/-- Among some chunks, the first one with a name has this data, all of it. -/
inductive Leads (name : Name) : Bytes → Bytes → Prop
  | here {size data : Bytes} (hsize : size.length = 4 ∧ Bytes.toNatLE size = data.length) (b : Bytes) :
      Leads name (name ++ size ++ data ++ b) data
  | behind {other size b data : Bytes} (hother : other.length = 4 ∧ other ≠ name) (hsize : size.length = 4)
      (h : Leads name (b.drop (Bytes.toNatLE size + Bytes.toNatLE size % 2)) data) :
      Leads name (other ++ size ++ b) data

/-- The notes of a file: it announces further chunks, and these lead to notes. -/
def HasNotes (b notes : Bytes) : Prop :=
  ∃ size rest, b.drop 12 = extendedName ++ size ++ rest ∧ size.length = 4 ∧
    Leads notesName (rest.drop (Bytes.toNatLE size + Bytes.toNatLE size % 2)) notes

theorem chunkHead_eq_ok_iff {b rest : Bytes} {name : Name} {n : Nat} :
    chunkHead b = .ok ((name, n), rest) ↔
      ∃ size : Bytes, name.length = 4 ∧ size.length = 4 ∧ Bytes.toNatLE size = n ∧
        b = name ++ size ++ rest := by
  constructor
  · intro h
    obtain ⟨⟨name', b'⟩, hname, hsteps⟩ := bind_eq_ok_iff.1 h
    obtain ⟨⟨n', rest'⟩, hnumber, hresult⟩ := bind_eq_ok_iff.1 hsteps
    obtain ⟨⟨size, rest''⟩, hsize, hn⟩ := bind_eq_ok_iff.1 hnumber
    obtain ⟨rfl, hlength⟩ := Bytes.eq_append_of_take? (Reading.bytes_eq_ok_iff.1 hname)
    obtain ⟨rfl, hlength'⟩ := Bytes.eq_append_of_take? (Reading.bytes_eq_ok_iff.1 hsize)
    cases hn
    cases hresult
    exact ⟨size, hlength, hlength', rfl, (List.append_assoc _ _ _).symm⟩
  · rintro ⟨size, hlength, hlength', rfl, rfl⟩
    rw [List.append_assoc]
    have hname : Reading.bytes .truncated 4 (name ++ (size ++ rest)) = .ok (name, size ++ rest) :=
      Reading.bytes_eq_ok_iff.2 (Bytes.take?_append hlength _)
    have hsize : Reading.bytes .truncated 4 (size ++ rest) = .ok (size, rest) :=
      Reading.bytes_eq_ok_iff.2 (Bytes.take?_append hlength' _)
    refine bind_eq_ok_iff.2 ⟨_, hname, bind_eq_ok_iff.2 ⟨(Bytes.toNatLE size, rest), ?_, rfl⟩⟩
    exact bind_eq_ok_iff.2 ⟨_, hsize, rfl⟩

/-- A name leads to one chunk at most. -/
theorem Leads.head {name : Name} (hname : name.length = 4) {b data : Bytes} (h : Leads name b data) :
    ∃ other n rest, chunkHead b = .ok ((other, n), rest) ∧ b.length = 8 + rest.length ∧
      (other = name ∧ n ≤ rest.length ∧ rest.take n = data ∨
        other ≠ name ∧ Leads name (rest.drop (n + n % 2)) data) := by
  cases h with
  | @here size data hsize b =>
    refine ⟨name, _, data ++ b, chunkHead_eq_ok_iff.2 ⟨size, hname, hsize.1, rfl, ?_⟩, ?_, .inl ⟨rfl, ?_, ?_⟩⟩
    · rw [List.append_assoc]
    · simp only [List.length_append, hname, hsize.1]
      omega
    · rw [List.length_append, hsize.2]
      exact Nat.le_add_right _ _
    · rw [hsize.2, List.take_left]
  | @behind other size b data hother hsize h =>
    refine ⟨other, _, b, chunkHead_eq_ok_iff.2 ⟨size, hother.1, hsize, rfl, rfl⟩, ?_, .inr ⟨hother.2, h⟩⟩
    simp only [List.length_append, hother.1, hsize]

/-- What is found under a name is what the name leads to. -/
theorem completeFrom_eq_ok {name : Name} (hname : name.length = 4) {fuel : Nat} {b : Bytes}
    {found : Option Bytes} (h : completeFrom name fuel b = .ok found) (hfuel : b.length ≤ fuel)
    (data : Bytes) : found = some data ↔ Leads name b data := by
  induction fuel generalizing b with
  | zero =>
    obtain rfl := Except.ok.inj h
    refine ⟨fun h => (nomatch h), fun hleads => ?_⟩
    obtain ⟨_, _, _, -, hlength, -⟩ := hleads.head hname
    omega
  | succ fuel ih =>
    unfold completeFrom at h
    split at h
    · next hend =>
      obtain rfl := Except.ok.inj h
      refine ⟨fun h => (nomatch h), fun hleads => ?_⟩
      obtain ⟨_, _, _, hhead, -⟩ := hleads.head hname
      rw [hhead] at hend
      cases hend
    · next other n rest hhead =>
      obtain ⟨size, hother, hsize, hn, rfl⟩ := chunkHead_eq_ok_iff.1 hhead
      split at h
      · next heq =>
        subst heq
        obtain ⟨⟨data', rest'⟩, hdata, rfl⟩ := map_eq_ok_iff.1 h
        obtain ⟨rfl, hlength⟩ := Bytes.eq_append_of_take? (Reading.bytes_eq_ok_iff.1 hdata)
        constructor
        · intro heq
          obtain rfl := Option.some.inj heq
          have hleads := @Leads.here other size _ ⟨hsize, hn.trans hlength.symm⟩ rest'
          rwa [List.append_assoc] at hleads
        · intro hleads
          obtain ⟨other', n', rest'', hhead', -, ⟨-, -, htake⟩ | ⟨hne, -⟩⟩ := hleads.head hname
          · rw [hhead] at hhead'
            cases hhead'
            rw [← htake, ← hlength, List.take_left]
          · rw [hhead] at hhead'
            cases hhead'
            exact absurd rfl hne
      · next hne =>
        have hrest : (rest.drop (n + n % 2)).length ≤ fuel := by
          simp only [List.length_append, hother, hsize] at hfuel
          rw [List.length_drop]
          omega
        rw [ih h hrest, ← hn]
        constructor
        · exact fun hleads => .behind ⟨hother, hne⟩ hsize hleads
        · intro hleads
          obtain ⟨other', n', rest'', hhead', -, ⟨heq, -⟩ | ⟨-, hbehind⟩⟩ := hleads.head hname
          · rw [hhead] at hhead'
            cases hhead'
            exact absurd heq hne
          · rw [hhead] at hhead'
            cases hhead'
            rwa [hn]

end Webp

end Cutout
