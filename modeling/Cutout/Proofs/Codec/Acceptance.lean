import Cutout.Proofs.Codec.Notes
import Cutout.Proofs.Result

/-!
# Which files are read

A file is opened and its pixels are read, whether the picture is then left as it is stored or turned
upright. Only the first way counts the memory that the pixels take, and leaves its reader that much less,
and only the second one looks at the notes of the camera, so that a file is read both ways or neither way
unless just one of these stands against it (`readUpright_alike_iff`). Both can: `cutOffNotes` is read as
it is stored, and not upright, and a large bitmap is read upright, and not as it is stored.
-/

namespace Cutout

/-! ## What each way asks for -/

namespace Source

/-- The notes of the camera can be read, or there are none. -/
def HasReadableNotes (s : Source) : Prop :=
  ∃ tag, s.orientation = .ok tag

/-- The pixels take no more memory than is granted, and what they leave is enough for the reader. -/
def IsGranted (s : Source) : Prop :=
  s.size ≤ memoryLimit ∧ s.picture (memoryLimit - s.size) ≠ .error (.limits .memory)

/-- Where memory is granted, the picture is the same as with all the memory there is. -/
theorem picture_of_isGranted {s : Source} (hs : s.IsSound) (h : s.IsGranted) :
    s.picture (memoryLimit - s.size) = s.picture memoryLimit :=
  (hs.memory _ _ (Nat.sub_le _ _)).resolve_right h.2

end Source

section

variable [FurtherReaders] {b : Bytes} {s : Source}

theorem exists_readStored_iff :
    (∃ r, readStored b = .ok r) ↔
      ∃ s p, Source.ofBytes b = .ok s ∧ s.picture memoryLimit = .ok p ∧ s.IsGranted := by
  constructor
  · rintro ⟨r, hr⟩
    obtain ⟨s, p, hs, hp, hsize, -⟩ := readStored_eq_ok_iff.1 hr
    have hgranted : s.IsGranted := ⟨hsize, by rw [hp]; exact nofun⟩
    exact ⟨s, p, hs, (Source.picture_of_isGranted (Source.ofBytes_isSound b s hs) hgranted).symm.trans hp,
      hgranted⟩
  · rintro ⟨s, p, hs, hp, hgranted⟩
    have hpicture := Source.picture_of_isGranted (Source.ofBytes_isSound b s hs) hgranted
    exact ⟨p.toRgba8, readStored_eq_ok_iff.2 ⟨s, p, hs, hpicture.trans hp, hgranted.1, rfl⟩⟩

theorem exists_readUpright_iff :
    (∃ q, readUpright b = .ok q) ↔
      ∃ s p, Source.ofBytes b = .ok s ∧ s.picture memoryLimit = .ok p ∧ s.HasReadableNotes := by
  constructor
  · rintro ⟨q, hq⟩
    obtain ⟨s, tag, p, hs, htag, hp, -⟩ := readUpright_eq_ok_iff.1 hq
    exact ⟨s, p, hs, hp, tag, htag⟩
  · rintro ⟨s, p, hs, hp, tag, htag⟩
    exact ⟨_, readUpright_eq_ok_iff.2 ⟨s, tag, p, hs, htag, hp, rfl⟩⟩

/-- There is one source and one picture in a file. -/
theorem exists_opened_iff {P : Source → Prop} {p : Picture} (hs : Source.ofBytes b = .ok s)
    (hp : s.picture memoryLimit = .ok p) :
    (∃ s p, Source.ofBytes b = .ok s ∧ s.picture memoryLimit = .ok p ∧ P s) ↔ P s := by
  constructor
  · rintro ⟨s', p', hs', -, h⟩
    rwa [Except.ok.inj (hs.symm.trans hs')]
  · exact fun h => ⟨s, p, hs, hp, h⟩

/-- A file is read both ways or neither way if its notes can be read and the memory for its pixels is
granted, or neither. -/
theorem exists_readUpright_iff_exists_readStored_iff :
    ((∃ q, readUpright b = .ok q) ↔ ∃ r, readStored b = .ok r) ↔
      ∀ s p, Source.ofBytes b = .ok s → s.picture memoryLimit = .ok p →
        (s.HasReadableNotes ↔ s.IsGranted) := by
  rw [exists_readUpright_iff, exists_readStored_iff]
  constructor
  · intro h s p hs hp
    rwa [exists_opened_iff hs hp, exists_opened_iff hs hp] at h
  · intro h
    refine exists_congr fun s => exists_congr fun p => ?_
    exact and_congr_right fun hs => and_congr_right fun hp => h s p hs hp

/-- A file that cannot be opened is refused for the same reason both ways. -/
theorem read_of_ofBytes_error {f : ImageFault} (h : Source.ofBytes b = .error f) :
    readUpright b = .error f ∧ readStored b = .error f := by
  unfold readUpright readStored
  rw [h]
  exact ⟨rfl, rfl⟩

theorem readUpright_of_orientation_error {f : ImageFault} (hs : Source.ofBytes b = .ok s)
    (hf : s.orientation = .error f) : readUpright b = .error f := by
  unfold readUpright Source.upright
  simp only [hs, hf, bind, Except.bind]

theorem readStored_of_not_isGranted (hs : Source.ofBytes b = .ok s) (h : ¬s.IsGranted) :
    readStored b = .error (.limits .memory) := by
  have hrefused : s.asStored = .error (.limits .memory) := by
    unfold Source.asStored
    split
    · rfl
    · next hsize => exact Classical.not_not.1 fun hpicture => h ⟨Nat.le_of_not_lt hsize, hpicture⟩
  unfold readStored
  simp only [hs, bind, Except.bind, hrefused]

end

/-! ## Files whose notes can be read -/

variable {b : Bytes} {s : Source}

/-- The notes in a chunk are missed only when the file ends in it. -/
theorem Webp.completeFrom_eq_error {name : Name} {f : ImageFault} {fuel : Nat} {b : Bytes}
    (h : completeFrom name fuel b = .error f) : f = .truncated := by
  induction fuel generalizing b with
  | zero => cases h
  | succ fuel ih =>
    unfold completeFrom at h
    split at h
    · cases h
    · next other n rest _ =>
      split at h
      · unfold Reading.bytes at h
        split at h
        · cases h
        · exact (Except.error.inj h).symm
      · exact ih h

/-- Whatever the notes are, all that can stand against reading them is that the file ends before they do. -/
def Source.LosesNotesOnlyAtEnd (s : Source) : Prop :=
  ∀ f, s.orientation = .error f → f = .truncated

theorem Webp.complete_losesNotes (b : Bytes) {w h : Nat} {hasAlpha : Bool}
    {picture : Nat → Except ImageFault Picture} :
    (sourceOf w h hasAlpha ((complete notesName b).map fun notes => notes.bind Exif.orientation?)
      picture).LosesNotesOnlyAtEnd := by
  intro f h
  change (complete notesName b).map _ = _ at h
  cases hcomplete : complete notesName b with
  | ok notes =>
    rw [hcomplete] at h
    cases h
  | error f' =>
    rw [hcomplete] at h
    cases h
    exact completeFrom_eq_error hcomplete

theorem Webp.openExtended_losesNotes (size : Nat) (b : Bytes) :
    Yields (openExtended size b) Source.LosesNotesOnlyAtEnd := by
  unfold openExtended
  refine .skip fun ⟨e, _⟩ => ?_
  dsimp only
  split
  · exact .error _
  split
  · unfold openAnimation
    split
    · split
      · exact .error _
      split
      · exact .error _
      · exact .ok (complete_losesNotes _)
    · exact .error _
  split
  · exact .ok (complete_losesNotes _)
  · exact .ok (complete_losesNotes _)
  · exact .error _

theorem Webp.openWebp_losesNotes (b : Bytes) : Yields (openWebp b) Source.LosesNotesOnlyAtEnd := by
  -- a file that is a single picture has no notes
  have hsingle : ∀ {w h hasAlpha picture},
      Yields (pure (sourceOf w h hasAlpha (.ok none) picture) : Except ImageFault Source)
        Source.LosesNotesOnlyAtEnd :=
    .ok fun _ h => nomatch h
  unfold openWebp
  refine .skip fun ⟨_, b⟩ => .skip fun ⟨⟨name, size⟩, b⟩ => ?_
  dsimp only
  split
  · unfold openLossless
    split
    · exact .error _
    · exact .skip fun _ => hsingle
  split
  · exact openExtended_losesNotes size b
  split
  · unfold openLossy
    exact .skip fun _ => hsingle
  · exact .error _

/-- Four formats never lose a picture to its notes. -/
theorem Source.ofBytes_hasReadableNotes [FurtherReaders] {f : ImageFormat}
    (hsniff : ImageFormat.sniff b = some f) (hf : f = .png ∨ f = .jpeg ∨ f = .gif ∨ f = .bmp) :
    Yields (Source.ofBytes b) Source.HasReadableNotes := by
  unfold Source.ofBytes
  rw [hsniff]
  obtain rfl | rfl | rfl | rfl := hf
  · change Yields (Png.openPng b) _
    unfold Png.openPng
    refine .skip fun ⟨p, n, rest⟩ => ?_
    dsimp only
    split
    · exact .error _
    · exact .ok ⟨_, rfl⟩
  · change Yields (Jpeg.openJpeg b) _
    unfold Jpeg.openJpeg
    refine .skip fun ⟨p, scan?⟩ => ?_
    split
    · exact .error _
    split
    · exact .error _
    split
    · exact fun s hs => ⟨_, FurtherReaders.openOr_orientation s hs⟩
    · exact .ok ⟨_, rfl⟩
  · change Yields (Gif.openGif b) _
    unfold Gif.openGif
    exact .skip fun _ => .ok ⟨_, rfl⟩
  · change Yields (Bmp.openBmp b) _
    unfold Bmp.openBmp
    exact .skip fun _ => .ok ⟨_, rfl⟩

/-! ## Both ways -/

/-- **When a file is read upright exactly if it is read as it is stored**: its notes can be read and the
memory for its pixels is granted, or neither. A file that is not opened, or of no known format, is refused
for the same reason both ways, and no notes but those that the file ends in stand against a picture. -/
theorem readUpright_alike_iff [FurtherReaders] (b : Bytes) :
    (((∃ q, readUpright b = .ok q) ↔ ∃ r, readStored b = .ok r) ↔
      ∀ s p, Source.ofBytes b = .ok s → s.picture memoryLimit = .ok p →
        (s.HasReadableNotes ↔ s.IsGranted)) ∧
    (∀ f, Source.ofBytes b = .error f → readUpright b = .error f ∧ readStored b = .error f) ∧
    (ImageFormat.sniff b = none →
      readUpright b = .error (.unsupported .unknownFormat) ∧
        readStored b = .error (.unsupported .unknownFormat)) ∧
    ∀ s, Source.ofBytes b = .ok s →
      (¬s.IsGranted → readStored b = .error (.limits .memory)) ∧
      (∀ f, s.orientation = .error f → readUpright b = .error f) ∧
      (ImageFormat.sniff b = some .webp → s.LosesNotesOnlyAtEnd) ∧
      ∀ f, ImageFormat.sniff b = some f → f = .png ∨ f = .jpeg ∨ f = .gif ∨ f = .bmp →
        s.HasReadableNotes := by
  refine ⟨exists_readUpright_iff_exists_readStored_iff, fun f h => read_of_ofBytes_error h,
    fun h => read_of_ofBytes_error ?_,
    fun s hs => ⟨readStored_of_not_isGranted hs, fun f hf => readUpright_of_orientation_error hs hf,
      fun hsniff => ?_, fun f hsniff hf => Source.ofBytes_hasReadableNotes hsniff hf s hs⟩⟩
  · unfold Source.ofBytes
    rw [h]
  · unfold Source.ofBytes at hs
    rw [hsniff] at hs
    exact Webp.openWebp_losesNotes b s hs

/-- In four formats all that makes a difference is the memory for the pixels. -/
theorem readUpright_alike_of_isGranted [FurtherReaders] {f : ImageFormat}
    (hsniff : ImageFormat.sniff b = some f)
    (hf : f = .png ∨ f = .jpeg ∨ f = .gif ∨ f = .bmp) (hs : Source.ofBytes b = .ok s)
    (hgranted : s.IsGranted) :
    (∃ q, readUpright b = .ok q) ↔ ∃ r, readStored b = .ok r := by
  refine exists_readUpright_iff_exists_readStored_iff.2 fun s' p hs' _ => ?_
  obtain rfl : s = s' := Except.ok.inj (hs.symm.trans hs')
  exact iff_of_true (Source.ofBytes_hasReadableNotes hsniff hf s hs) hgranted

/-! ## Files that are read one way only -/

/-- A file with a single pixel that ends behind the header of its notes. -/
def cutOffNotes : Bytes :=
  (Webp.fileOf [
    ⟨Webp.extendedName, [0x18, 0, 0, 0, 0, 0, 0, 0, 0, 0]⟩,
    ⟨Webp.losslessName, [0x2f, 0x00, 0x00, 0x00, 0x10, 0xcd, 0x55, 0x20, 0x22, 0x02, 0x15, 0xe8, 0x7f,
      0xb6, 0x20, 0x01]⟩,
    ⟨Webp.notesName, List.replicate 26 0⟩]).take 62

/-- A picture is lost to notes that are not there, and a picture that takes too much memory is read. -/
theorem not_readUpright_alike :
    ((readStored cutOffNotes).toOption.map Raster.toList = some [⟨1, 2, 3, 4⟩] ∧
      readUpright cutOffNotes = .error .truncated) ∧
    (∃ q, readUpright (bitmap 16384 16384 8 1 1 [0, 1]) = .ok q) ∧
      readStored (bitmap 16384 16384 8 1 1 [0, 1]) = .error (.limits .memory) := by
  refine ⟨⟨?_, rfl⟩, ⟨_, rfl⟩, rfl⟩
  decide +kernel

end Cutout
