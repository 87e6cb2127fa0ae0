import Cutout.Codec.Open
import Cutout.Proofs.Codec.Notes.Front

/-!
# What a file notes about its orientation

Four formats have a place for the notes of a camera, or are a directory of notes themselves. `Notes b n`
says by the places of the bytes that the file `b` notes the number `n` for its orientation: which segment
or chunk counts, where its directory is, and which of its entries. The readers find this number
(`Source.ofBytes_notes`), and a number that is written into a photograph is noted
(`Jpeg.notes_withOrientation`).
-/

namespace Cutout

/-! ## Files -/

/-- A file notes a number for its orientation. -/
def Notes (b : Bytes) (n : Nat) : Prop :=
  match ImageFormat.sniff b with
  | some .jpeg => ∃ notes, Jpeg.HasNotes b notes ∧ Exif.Says notes n
  | some .png => ∃ notes, Png.HasNotes b notes ∧ Exif.Says notes n
  | some .webp => ∃ notes, Webp.HasNotes b notes ∧ Exif.Says notes n
  | some .tiff => Tiff.Says b n
  | _ => False

/-- The number in the notes of a file, if it has notes. -/
theorem bind_number?_eq_some_iff {notes? : Option Bytes} {HasNotes : Bytes → Prop}
    (h : ∀ notes, notes? = some notes ↔ HasNotes notes) (n : Nat) :
    notes?.bind Exif.number? = some n ↔ ∃ notes, HasNotes notes ∧ Exif.Says notes n := by
  simp only [Option.bind_eq_some_iff, h, Exif.number?_eq_some_iff]

theorem bind_orientation?_eq_bind (notes? : Option Bytes) :
    notes?.bind Exif.orientation? = (notes?.bind Exif.number?).bind Orientation.ofTag? := by
  rw [Option.bind_assoc]
  exact congrArg notes?.bind (funext Exif.orientation?_eq_bind)

theorem FurtherReaders.openOr_orientation [FurtherReaders] {u : Unsupported} {f : ImageFormat}
    {b : Bytes} {orientation : Except ImageFault (Option Orientation)} :
    Yields (openOr u f b orientation) fun s => s.orientation = orientation := by
  unfold openOr
  split
  · exact .error _
  · exact Yields.any.map fun _ _ => rfl

theorem Jpeg.openJpeg_orientation [FurtherReaders] (b : Bytes) :
    Yields (openJpeg b) fun s => ∃ fuel p scan, readPreface fuel .empty (b.drop 2) = .ok (p, some scan) ∧
      s.orientation = .ok (p.notes.bind Exif.orientation?) := by
  intro s h
  obtain ⟨⟨p, scan?⟩, hpreface, hrest⟩ := bind_eq_ok_iff.1 h
  dsimp only at hrest
  split at hrest
  · cases hrest
  next p scan rest heq =>
  cases heq
  split at hrest
  · cases hrest
  refine ⟨_, p, _, hpreface, ?_⟩
  split at hrest
  · exact FurtherReaders.openOr_orientation s hrest
  · cases hrest
    rfl

theorem Png.openPng_orientation (b : Bytes) :
    Yields (openPng b) fun s => ∃ p n rest, preface b = .ok (p, n, rest) ∧
      s.orientation = .ok (p.notes.bind Exif.orientation?) := by
  intro s h
  obtain ⟨⟨p, n, rest⟩, hpreface, hrest⟩ := bind_eq_ok_iff.1 h
  dsimp only at hrest
  split at hrest
  · cases hrest
  · cases hrest
    exact ⟨p, n, rest, hpreface, rfl⟩

theorem Tiff.openTiff_orientation [FurtherReaders] (b : Bytes) :
    Yields (openTiff b) fun s => ∃ f, readFile b = .ok f ∧ s.orientation = f.orientation := by
  intro s h
  obtain ⟨f, hf, hrest⟩ := bind_eq_ok_iff.1 h
  refine ⟨f, hf, ?_⟩
  split at hrest
  · exact FurtherReaders.openOr_orientation s hrest
  · cases hrest
  · cases hrest
    rfl

theorem Webp.openExtended_orientation (size : Nat) (b : Bytes) :
    Yields (openExtended size b) fun s =>
      s.orientation = (complete notesName (b.drop (size + size % 2))).map fun notes? =>
        notes?.bind Exif.orientation? := by
  unfold openExtended
  refine .skip fun ⟨e, _⟩ => ?_
  dsimp only
  split
  · exact .error _
  split
  · unfold openAnimation
    split
    · split
      · exact .error _
      split
      · exact .error _
      · exact .ok rfl
    · exact .error _
  split
  · exact .ok rfl
  · exact .ok rfl
  · exact .error _

theorem Webp.content_eq_ok {b rest : Bytes} {u : Unit} (h : content b = .ok (u, rest)) :
    b.drop 12 = rest := by
  obtain ⟨⟨riff, b₁⟩, hriff, h₁⟩ := bind_eq_ok_iff.1 h
  obtain ⟨⟨size, b₂⟩, hsize, h₂⟩ := bind_eq_ok_iff.1 h₁
  obtain ⟨⟨kind, b₃⟩, hkind, h₃⟩ := bind_eq_ok_iff.1 h₂
  obtain ⟨rfl, hlength⟩ := Bytes.eq_append_of_take? (Reading.bytes_eq_ok_iff.1 hriff)
  obtain ⟨rfl, hlength'⟩ := Bytes.eq_append_of_take? (Reading.bytes_eq_ok_iff.1 hsize)
  obtain ⟨rfl, hlength''⟩ := Bytes.eq_append_of_take? (Reading.bytes_eq_ok_iff.1 hkind)
  have hrest : b₃ = rest := by
    dsimp only at h₃
    split at h₃
    · cases h₃
      rfl
    · cases h₃
  rw [← hrest, ← List.append_assoc, ← List.append_assoc]
  exact List.drop_left' (by simp only [List.length_append, hlength, hlength', hlength''])

/-- The orientation of a file with a single picture, or of one with notes. -/
theorem Webp.openWebp_orientation {b : Bytes} {s : Source} {tag : Option Orientation}
    (h : openWebp b = .ok s) (htag : s.orientation = .ok tag) :
    ∃ notes? : Option Bytes, tag = notes?.bind Exif.orientation? ∧
      ∀ notes, notes? = some notes ↔ HasNotes b notes := by
  obtain ⟨⟨u, file⟩, hcontent, hsteps⟩ := bind_eq_ok_iff.1 h
  obtain ⟨⟨⟨name, n⟩, rest⟩, hhead, hopened⟩ := bind_eq_ok_iff.1 hsteps
  obtain ⟨size, hname, hsize, rfl, hfile⟩ := chunkHead_eq_ok_iff.1 hhead
  have hdrop : b.drop 12 = name ++ size ++ rest := (content_eq_ok hcontent).trans hfile
  -- the first chunk is the one with the name that is announced
  have hfirst {size' rest' : Bytes} (heq : b.drop 12 = extendedName ++ size' ++ rest')
      (hsize' : size'.length = 4) : name = extendedName ∧ size = size' ∧ rest = rest' := by
    rw [hdrop, List.append_assoc, List.append_assoc] at heq
    obtain ⟨hnames, hrest⟩ := List.append_inj heq hname
    exact ⟨hnames, List.append_inj hrest (hsize.trans hsize'.symm)⟩
  have hsingle (hother : name ≠ extendedName) (hnone : s.orientation = .ok none) :
      ∃ notes? : Option Bytes, tag = notes?.bind Exif.orientation? ∧
        ∀ notes, notes? = some notes ↔ HasNotes b notes := by
    obtain rfl := Except.ok.inj (htag.symm.trans hnone)
    refine ⟨none, rfl, fun notes => ⟨fun h => (nomatch h), ?_⟩⟩
    rintro ⟨size', rest', heq, hsize', -⟩
    exact absurd (hfirst heq hsize').1 hother
  dsimp only at hopened
  split at hopened
  · next hlossless =>
    refine hsingle (by rw [hlossless]; decide) ?_
    unfold openLossless at hopened
    split at hopened
    · cases hopened
    · obtain ⟨_, -, hs⟩ := bind_eq_ok_iff.1 hopened
      cases hs
      rfl
  split at hopened
  · next hextended =>
    subst hextended
    have horientation := openExtended_orientation _ rest s hopened
    obtain ⟨notes?, hnotes, rfl⟩ := map_eq_ok_iff.1 (horientation.symm.trans htag)
    refine ⟨notes?, rfl, fun notes => ?_⟩
    rw [completeFrom_eq_ok rfl hnotes (Nat.le_refl _)]
    constructor
    · exact fun hleads => ⟨size, rest, hdrop, hsize, hleads⟩
    · rintro ⟨size', rest', heq, hsize', hleads⟩
      obtain ⟨-, rfl, rfl⟩ := hfirst heq hsize'
      exact hleads
  split at hopened
  · next hlossy =>
    refine hsingle (by rw [hlossy]; decide) ?_
    obtain ⟨_, -, hs⟩ := bind_eq_ok_iff.1 hopened
    cases hs
    rfl
  · cases hopened

/-- **The orientation of a file is the number that it notes**, if that is the value of an orientation. -/
theorem Source.ofBytes_notes [FurtherReaders] {b : Bytes} {s : Source} {tag : Option Orientation}
    (h : Source.ofBytes b = .ok s) (htag : s.orientation = .ok tag) :
    ∃ n? : Option Nat, tag = n?.bind Orientation.ofTag? ∧ ∀ n, n? = some n ↔ Notes b n := by
  unfold Source.ofBytes at h
  unfold Notes
  split at h
  · cases h
  next f hsniff =>
  rw [hsniff]
  cases f with
  | jpeg =>
    obtain ⟨fuel, p, scan, hpreface, horientation⟩ := Jpeg.openJpeg_orientation b s h
    obtain rfl := Except.ok.inj (horientation.symm.trans htag)
    exact ⟨_, bind_orientation?_eq_bind _, bind_number?_eq_some_iff (Jpeg.readPreface_notes hpreface)⟩
  | png =>
    obtain ⟨p, n, rest, hpreface, horientation⟩ := Png.openPng_orientation b s h
    obtain rfl := Except.ok.inj (horientation.symm.trans htag)
    exact ⟨_, bind_orientation?_eq_bind _, bind_number?_eq_some_iff (Png.preface_notes hpreface)⟩
  | webp =>
    obtain ⟨notes?, rfl, hnotes⟩ := Webp.openWebp_orientation h htag
    exact ⟨_, bind_orientation?_eq_bind _, bind_number?_eq_some_iff hnotes⟩
  | tiff =>
    obtain ⟨f, hf, horientation⟩ := Tiff.openTiff_orientation b s h
    obtain ⟨n?, hn, rfl⟩ := map_eq_ok_iff.1 (horientation.symm.trans htag)
    exact ⟨n?, rfl, Tiff.note?_says hf hn⟩
  | gif =>
    obtain ⟨r, -, hs⟩ := bind_eq_ok_iff.1 h
    cases hs
    cases htag
    exact ⟨none, rfl, fun n => ⟨fun h => (nomatch h), False.elim⟩⟩
  | bmp =>
    obtain ⟨header, -, hs⟩ := bind_eq_ok_iff.1 h
    cases hs
    cases htag
    exact ⟨none, rfl, fun n => ⟨fun h => (nomatch h), False.elim⟩⟩
  | _ => cases h

/-! ## Writing notes into a photograph -/

/-- A directory of notes with nothing but an orientation. -/
def Exif.directoryOf (n : Nat) : Bytes :=
  [0x49, 0x49, 42, 0] ++ Bytes.ofNatLE 4 8 ++ Bytes.ofNatLE 2 1 ++
    (Bytes.ofNatLE 2 0x112 ++ Bytes.ofNatLE 2 3 ++ Bytes.ofNatLE 4 1 ++ Bytes.ofNatLE 2 n ++ [0, 0]) ++
    Bytes.ofNatLE 4 0

theorem Exif.says_directoryOf {n : Nat} (h : n < 65536) : Says (directoryOf n) n := by
  have hlength : (directoryOf n).length = 26 := rfl
  have hentry : (entryAt (directoryOf n) 8 0).length = 16 := rfl
  refine ⟨.little, 8, 1, 0, ⟨rfl, ⟨by omega, rfl⟩, by omega, rfl⟩, Nat.one_pos,
    ⟨by omega, rfl, rfl, rfl, ?_⟩, fun j hj => absurd hj j.not_lt_zero⟩
  change Bytes.toNatLE (Bytes.ofNatLE 2 n) = n
  rw [Bytes.toNatLE_ofNatLE]
  exact Nat.mod_eq_of_lt h

/-- A photograph with an orientation in front of everything else. -/
def Jpeg.withOrientation (n : Nat) (photo : Bytes) : Bytes :=
  let data := notesLead ++ Exif.directoryOf n
  photo.take 2 ++ [0xFF, 0xE1] ++ Bytes.ofNatBE 2 (data.length + 2) ++ data ++ photo.drop 2

/-- The orientation that is written into a photograph without notes is the one that it notes. -/
theorem Jpeg.notes_withOrientation {n : Nat} {photo : Bytes} {segments : List (UInt8 × Bytes)}
    (hlead : photo.take 2 = [0xFF, 0xD8]) (hfront : Front (photo.drop 2) segments)
    (hnone : ∀ segment ∈ segments, notesOf segment = none) (hn : n < 65536) :
    Notes (withOrientation n photo) n := by
  have hsniff : ImageFormat.sniff (withOrientation n photo) = some .jpeg := by
    unfold withOrientation
    rw [hlead]
    rfl
  have hlength : (notesLead ++ Exif.directoryOf n).length = 32 := rfl
  have hsize : Bytes.toNatBE (Bytes.ofNatBE 2 34) = (notesLead ++ Exif.directoryOf n).length + 2 := by
    rw [hlength]
    rfl
  have hwhole : Front ((withOrientation n photo).drop 2)
      ((0xE1, notesLead ++ Exif.directoryOf n) :: segments) := by
    unfold withOrientation
    dsimp only
    rw [hlead, hlength]
    exact .segment (by decide) ⟨rfl, hsize⟩ hfront
  unfold Notes
  rw [hsniff]
  exact ⟨_, ⟨[], segments, hwhole, fun segment hsegment => notesOf_eq_none_iff.1 (hnone segment hsegment)⟩,
    Exif.says_directoryOf hn⟩

end Cutout
