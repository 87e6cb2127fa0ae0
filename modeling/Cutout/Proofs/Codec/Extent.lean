import Cutout.Codec.Open
import Cutout.Proofs.Codec.Yields

/-!
# The size of what is read

Whatever format a file has, its size is known before its pixels, each side fits into four bytes, and
the picture that is read has this size (`Source.ofBytes_isSound`). A side is read from a field of one
to four bytes, so that what a reader yields is followed up to the steps that read a side; the steps
that read the pixels matter only where they check the size once more. Two readers ask for memory on the
way to the pixels; with less of it they refuse the picture, or nothing changes.
-/

namespace Cutout

/-! ## Sizes -/

namespace IsFrugal

variable {α β : Type} {x : Nat → Except ImageFault α}

theorem const (y : Except ImageFault α) : IsFrugal fun _ => y := by
  intro _ _ _
  exact .inl rfl

theorem bind {f : α → Nat → Except ImageFault β} (hx : IsFrugal x) (hf : ∀ a, IsFrugal (f a)) :
    IsFrugal fun memory => x memory >>= fun a => f a memory := by
  intro less memory h
  dsimp only
  rcases hx less memory h with heq | heq <;> rw [heq]
  · cases x memory with
    | error e => exact .inl rfl
    | ok a => exact hf a less memory h
  · exact .inr rfl

/-- Memory is asked for. -/
theorem asking (n : Nat) (hx : IsFrugal x) :
    IsFrugal fun memory => if memory < n then .error (.limits .memory) else x memory := by
  intro less memory h
  dsimp only
  split
  · exact .inr rfl
  · rw [if_neg (by omega : ¬memory < n)]
    exact hx less memory h

/-- Memory is taken. -/
theorem sub (n : Nat) (hx : IsFrugal x) : IsFrugal fun memory => x (memory - n) :=
  fun _ _ h => hx _ _ (Nat.sub_le_sub_right h n)

end IsFrugal

section

variable {w h : Nat} {t : PixelType} {orientation : Except ImageFault (Option Orientation)}

theorem Source.isSound_of_frugal {x : Nat → Except ImageFault Picture} (hw : IsSide w) (hh : IsSide h)
    (hx : ∀ memory, Yields (x memory) fun p => p.width = w ∧ p.height = h) (hfrugal : IsFrugal x) :
    Source.IsSound ⟨w, h, t, orientation, x⟩ :=
  ⟨hw, hh, hx, hfrugal⟩

/-- A source whose reader asks for no memory. -/
theorem Source.isSound_of_const {x : Except ImageFault Picture} (hw : IsSide w) (hh : IsSide h)
    (hx : Yields x fun p => p.width = w ∧ p.height = h) :
    Source.IsSound ⟨w, h, t, orientation, fun _ => x⟩ :=
  isSound_of_frugal hw hh (fun _ => hx) (.const x)

end

/-- What further readers open is sound, whatever is known of its orientation. -/
theorem FurtherReaders.openOr_isSound [FurtherReaders] (u : Unsupported) (f : ImageFormat) (b : Bytes)
    (orientation : Except ImageFault (Option Orientation)) :
    Yields (openOr u f b orientation) Source.IsSound := by
  unfold openOr
  split
  · exact .error _
  · next opened hopened =>
    refine Yields.map (P := Source.IsSound) ?_ fun s hs => ⟨hs.width, hs.height, hs.picture, hs.memory⟩
    rintro s rfl
    exact FurtherReaders.isSound f b s hopened

/-! ## Chunks with checksums -/

namespace Png

theorem yields_header (data : Bytes) :
    Yields (Header.read data) fun h => IsSide h.width ∧ IsSide h.height := by
  unfold Header.read
  split
  · exact .error _
  next w rest hw =>
  split
  · exact .error _
  next h rest' hh =>
  have hwidth := Bytes.toNatBE_lt w
  have hheight := Bytes.toNatBE_lt h
  rw [Bytes.length_of_take? hw] at hwidth
  rw [Bytes.length_of_take? hh] at hheight
  dsimp only
  repeat' split
  all_goals first
    | exact .error _
    | exact .ok ⟨hwidth, hheight⟩

/-- A chunk leaves the header as it is. -/
theorem yields_withChunk (p : Preface) (k : Kind) (data : Bytes) (intact : Bool) :
    Yields (p.withChunk k data intact) fun q => q.header = p.header := by
  have htransparency : (p.withTransparency data).header = p.header := by
    unfold Preface.withTransparency
    dsimp only
    split <;> split <;> rfl
  unfold Preface.withChunk
  repeat' split
  all_goals first
    | exact .error _
    | exact .ok rfl
    | exact .ok htransparency

theorem yields_readPreface (fuel : Nat) (p : Preface) (b : Bytes) :
    Yields (readPreface fuel p b) fun r => r.1.header = p.header := by
  induction fuel generalizing p b with
  | zero => exact .error _
  | succ fuel ih =>
    unfold readPreface
    refine .skip fun ⟨n, k, b⟩ => ?_
    dsimp only
    split
    · exact .ok rfl
    split
    · exact .error _
    refine .skip fun ⟨data, intact, b⟩ => (yields_withChunk p k data intact).bind fun q hq => ?_
    rw [← hq]
    exact ih q b

theorem yields_preface (b : Bytes) :
    Yields (preface b) fun r => IsSide r.1.header.width ∧ IsSide r.1.header.height := by
  unfold preface
  refine .skip fun ⟨_, b⟩ => .skip fun ⟨n, k, b⟩ => ?_
  dsimp only
  split
  · exact .error _
  refine .skip fun ⟨data, intact, b⟩ => ?_
  dsimp only
  split
  · exact .error _
  refine (yields_header data).bind fun h hh => ?_
  refine (yields_readPreface _ _ _).bind fun ⟨p, n, b⟩ hr => ?_
  dsimp only at hr ⊢
  split
  · exact .error _
  · refine .ok ?_
    rw [hr]
    exact hh

theorem size_assemble (p : Preface) (at? : Nat → Nat → List Nat) :
    (p.assemble at?).width = p.header.width ∧ (p.assemble at?).height = p.header.height := by
  unfold Preface.assemble
  dsimp only
  split <;> exact ⟨rfl, rfl⟩

theorem openPng_isSound (b : Bytes) : Yields (openPng b) Source.IsSound := by
  unfold openPng
  refine (yields_preface b).bind fun r hr => ?_
  dsimp only
  split
  · exact .error _
  · exact .ok (Source.isSound_of_const hr.1 hr.2 (Yields.any.map fun rows _ => size_assemble r.1 _))

end Png

/-! ## Indexed pictures in frames -/

namespace Gif

theorem frugal_readFrame (s : Screen) (transparent : Option UInt8) (b : Bytes) :
    IsFrugal fun memory => readFrame s memory transparent b := by
  unfold readFrame
  refine (IsFrugal.const _).bind fun ⟨left, b⟩ => (IsFrugal.const _).bind fun ⟨top, b⟩ => ?_
  refine (IsFrugal.const _).bind fun ⟨w, b⟩ => (IsFrugal.const _).bind fun ⟨h, b⟩ => ?_
  refine (IsFrugal.const _).bind fun ⟨flags, b⟩ => (IsFrugal.const _).bind fun ⟨own, b⟩ => ?_
  refine (IsFrugal.const _).bind fun ⟨least, b⟩ => ?_
  dsimp only
  split
  · exact .const _
  generalize (own <|> s.palette) = palette
  cases palette with
  | none => exact .const _
  | some palette =>
    intro less memory hle
    dsimp only
    split
    · exact .inr rfl
    · next hless =>
      rw [if_neg (by omega : ¬memory < s.extra left top w h)]
      exact .inl rfl

theorem frugal_firstFrame (s : Screen) (fuel : Nat) (transparent : Option UInt8) (b : Bytes) :
    IsFrugal fun memory => firstFrame s memory fuel transparent b := by
  induction fuel generalizing transparent b with
  | zero => exact .const _
  | succ fuel ih =>
    unfold firstFrame
    refine (IsFrugal.const _).bind fun ⟨kind, b⟩ => ?_
    dsimp only
    split
    · exact frugal_readFrame s transparent b
    split
    · exact (IsFrugal.const _).bind fun ⟨transparent, b⟩ => ih transparent b
    split
    · exact .const _
    · exact .const _

theorem openGif_isSound (b : Bytes) : Yields (openGif b) Source.IsSound := by
  have hscreen : Reads readScreen fun s => IsSide s.width ∧ IsSide s.height := by
    unfold readScreen
    refine .skip fun _ => (reads_little short 2).bind fun w hw => ?_
    refine (reads_little short 2).bind fun h hh => ?_
    exact .skip fun _ => .skip fun _ => .skip fun _ =>
      .pure ⟨.of_lt hw (by decide), .of_lt hh (by decide)⟩
  unfold openGif
  refine (hscreen b).bind fun ⟨s, rest⟩ hs => .ok (Source.isSound_of_frugal hs.1 hs.2 ?_ ?_)
  · exact fun memory => .skip fun _ => .ok ⟨rfl, rfl⟩
  · exact (frugal_firstFrame s _ _ _).bind fun _ => .const _

end Gif

/-! ## Bitmaps -/

namespace Bmp

theorem yields_number (b : Bytes) (place width : Nat) :
    Yields (number b place width) (· < Nat.pow 256 width) := by
  unfold number
  split
  · next n rest hn =>
    have h := Bytes.toNatLE_lt n
    rw [Bytes.length_of_take? hn] at h
    exact .ok h
  · exact .error _

theorem yields_core (b : Bytes) (place : Nat) :
    Yields (readCore b place) fun h => IsSide h.width ∧ IsSide h.height := by
  unfold readCore
  refine (yields_number b 18 2).bind fun w hw => (yields_number b 20 2).bind fun h hh => ?_
  have hsides : IsSide w ∧ IsSide h := ⟨.of_lt hw (by decide), .of_lt hh (by decide)⟩
  refine .skip fun _ => .skip fun _ => .skip fun _ => .skip fun _ => ?_
  split
  · exact .skip fun _ => .ok hsides
  split
  · exact .ok hsides
  · exact .error _

theorem yields_info (b : Bytes) (place size : Nat) :
    Yields (readInfo b place size) fun h => IsSide h.width ∧ IsSide h.height := by
  have hfinish (w h : Nat) (topDown : Bool) (bits method : Nat) :
      Yields (readInfo.finish b place size w h topDown bits method)
        fun head => head.width = w ∧ head.height = h := by
    unfold readInfo.finish
    extract_lets tail
    have htail (u : Unit) : Yields (tail u) fun head => head.width = w ∧ head.height = h := by
      refine .skip fun used => .skip fun _ => .skip fun layout => ?_
      dsimp only
      split
      · exact .skip fun palette => .ok ⟨rfl, rfl⟩
      · exact .skip fun palette => .ok ⟨rfl, rfl⟩
    split
    · exact .skip fun _ => htail ()
    split
    · exact .skip fun _ => htail ()
    · exact htail ()
  unfold readInfo
  refine (yields_number b 18 4).bind fun w hw => (yields_number b 22 4).bind fun h hh => ?_
  dsimp only
  split
  · exact .error _
  split
  · exact .error _
  split
  · exact .error _
  next hpositive hshort _ =>
  refine .skip fun _ => .skip fun _ => .skip fun _ => .skip fun bits => .skip fun method => ?_
  split
  · exact .error _
  · intro head hhead
    obtain ⟨hwidth, hheight⟩ := hfinish _ _ _ _ _ head hhead
    have hsides : (signed w).toNat < 4294967296 ∧ (signed h).natAbs < 4294967296 := by
      unfold signed longestSide at *
      omega
    unfold IsSide
    rw [hwidth, hheight]
    exact hsides

theorem openBmp_isSound (b : Bytes) : Yields (openBmp b) Source.IsSound := by
  have hheader : Yields (readHeader b) fun h => IsSide h.width ∧ IsSide h.height := by
    unfold readHeader
    refine .skip fun _ => .skip fun place => .skip fun size => ?_
    split
    · exact yields_core b place
    split
    · exact yields_info b place size
    split
    · exact .error _
    · exact .error _
  unfold openBmp
  refine hheader.bind fun h hh => .ok (Source.isSound_of_const hh.1 hh.2 (.skip fun at? => ?_))
  dsimp only
  split <;> exact .ok ⟨rfl, rfl⟩

end Bmp

/-! ## Photographs -/

namespace Jpeg

/-- The sides of the frame, if there is one already. -/
def Preface.HasSides (p : Preface) : Prop :=
  ∀ f, p.frame = some f → IsSide f.width ∧ IsSide f.height

theorem yields_frame (inPasses : Bool) (data : Bytes) :
    Yields (readFrame inPasses data) fun f => IsSide f.width ∧ IsSide f.height := by
  unfold readFrame
  split
  · next depth h1 h0 w1 w0 n b =>
    have htwo (x y : UInt8) : IsSide (Bytes.toNatBE [x, y]) :=
      .of_lt (Bytes.toNatBE_lt [x, y]) (Nat.le_of_ble_eq_true rfl)
    dsimp only
    split
    · exact .error _
    split
    · exact .error _
    split
    · exact .error _
    · exact .skip fun _ => .ok ⟨htwo w1 w0, htwo h1 h0⟩
  · exact .error _

theorem yields_codes (fuel : Nat) (p : Preface) (b : Bytes) :
    Yields (readCodes fuel p b) fun q => q.frame = p.frame := by
  induction fuel generalizing p b with
  | zero =>
    cases b with
    | nil => exact .ok rfl
    | cons x b => exact .error _
  | succ fuel ih =>
    cases b with
    | nil => exact .ok rfl
    | cons x b =>
      unfold readCodes
      split
      · exact .error _
      dsimp only
      split
      · exact .error _
      split
      · exact ih _ _
      · exact ih _ _

theorem yields_withSegment {p : Preface} (h : p.HasSides) (marker : Nat) (data : Bytes) :
    Yields (p.withSegment marker data) Preface.HasSides := by
  unfold Preface.withSegment
  split
  · exact .skip fun _ => .ok h
  split
  · intro q hq
    have hframe := yields_codes _ _ _ q hq
    unfold Preface.HasSides
    rwa [hframe]
  split
  · split
    · exact .error _
    · refine (yields_frame _ data).bind fun f hf => .ok ?_
      rintro g hg
      obtain rfl := Option.some.inj hg
      exact hf
  repeat' split
  all_goals first
    | exact .error _
    | exact .ok h

theorem yields_readPreface (fuel : Nat) {p : Preface} (h : p.HasSides) (b : Bytes) :
    Yields (readPreface fuel p b) fun r => r.1.HasSides := by
  induction fuel generalizing p b with
  | zero => exact .error _
  | succ fuel ih =>
    unfold readPreface
    split
    · next marker b =>
      split
      · exact ih h _
      split
      · exact ih h _
      split
      · exact .ok h
      refine .skip fun ⟨data, b⟩ => ?_
      dsimp only
      split
      · exact .skip fun _ => .ok h
      · exact (yields_withSegment h _ data).bind fun q hq => ih hq b
    · exact ih h _
    · exact .ok h

theorem yields_assemble (p : Preface) (f : Frame) (samples : List (Raster UInt8)) :
    Yields (assemble p f samples) fun q => q.width = f.width ∧ q.height = f.height := by
  unfold assemble
  split
  · exact .ok ⟨rfl, rfl⟩
  · exact .ok ⟨rfl, rfl⟩
  · exact .error _

theorem openJpeg_isSound [FurtherReaders] (b : Bytes) : Yields (openJpeg b) Source.IsSound := by
  have hempty : Preface.empty.HasSides := fun f hf => nomatch hf
  unfold openJpeg
  refine (yields_readPreface _ hempty _).bind fun ⟨p, scan⟩ hp => ?_
  dsimp only at hp ⊢
  split
  · exact .error _
  next p' s rest heq =>
  obtain ⟨rfl, -⟩ := Prod.mk.inj heq
  split
  · exact .error _
  next f hf =>
  split
  · exact FurtherReaders.openOr_isSound _ _ _ _
  · refine .ok (Source.isSound_of_const (hp f hf).1 (hp f hf).2 (.skip fun ⟨q, planes⟩ => ?_))
    exact .skip fun samples => yields_assemble q f samples

end Jpeg

/-! ## Tagged images -/

namespace Tiff

theorem File.cut_lt (f : File) {size : Nat} (hsize : size ≤ 4) (n : Nat) (b : Bytes) :
    ∀ v ∈ f.cut size n b, IsSide v := by
  induction n generalizing b with
  | zero =>
    intro v hv
    cases hv
  | succ n ih =>
    intro v hv
    rw [File.cut, List.mem_cons] at hv
    rcases hv with rfl | hv
    · have hlength : (b.take size).length ≤ 4 := by
        rw [List.length_take]
        omega
      exact .of_lt (f.order.number_lt _) hlength
    · exact ih _ v hv

theorem yields_values (f : File) (e : Entry) :
    Yields (f.values e) fun vs => ∀ v ∈ vs, IsSide v := by
  unfold File.values
  split
  · split <;> exact .error _
  next size hsize =>
  have hsmall : size ≤ 4 := by
    unfold valueSize? at hsize
    split at hsize <;> cases hsize <;> decide
  dsimp only
  split
  · exact .ok (f.cut_lt hsmall _ _)
  · exact .skip fun b => .ok (f.cut_lt hsmall _ _)

theorem yields_number (f : File) (tag : Nat) {default : Nat} (h : IsSide default) :
    Yields (f.number tag default) IsSide := by
  have hlist : Yields (f.list? tag) fun found => ∀ vs, found = some vs → ∀ v ∈ vs, IsSide v := by
    unfold File.list?
    split
    · exact .ok fun vs hvs => nomatch hvs
    · next e _ =>
      refine (yields_values f e).map fun vs hvs vs' heq => ?_
      obtain rfl := Option.some.inj heq
      exact hvs
  unfold File.number
  refine hlist.bind fun found hfound => ?_
  split
  · exact .ok h
  · exact .error _
  · next n rest => exact .ok (hfound _ rfl n List.mem_cons_self)

theorem yields_layout (f : File) :
    Yields f.layout fun l => IsSide l.width ∧ IsSide l.height := by
  have hzero : IsSide 0 := Nat.zero_lt_succ _
  unfold File.layout
  refine (yields_number f 256 hzero).bind fun w hw => (yields_number f 257 hzero).bind fun h hh => ?_
  split
  · exact .error _
  refine .skip fun _ => .skip fun _ => .skip fun _ => .skip fun _ => .skip fun _ => .skip fun _ =>
    .skip fun _ => .skip fun _ => ?_
  split
  · exact .error _
  refine .skip fun _ => .skip fun _ => .skip fun _ => .skip fun _ => ?_
  split
  · exact .error _
  dsimp only
  split
  · exact .error _
  · exact .ok ⟨hw, hh⟩

theorem size_assemble (f : File) (l : Layout) (data : Array UInt8) :
    (f.assemble l data).width = l.width ∧ (f.assemble l data).height = l.height := by
  unfold File.assemble
  dsimp only
  split <;> exact ⟨rfl, rfl⟩

theorem frugal_readStrips (b : Bytes) (l : Layout) (rows : Nat) (strips : List Strip) :
    IsFrugal fun memory => readStrips b l memory rows strips := by
  induction strips generalizing rows with
  | nil => cases rows <;> exact .const _
  | cons s strips ih =>
    cases rows with
    | zero => exact .const _
    | succ rows =>
      simp only [readStrips]
      refine .asking _ ?_
      split
      · exact .const _
      · exact (IsFrugal.const _).bind fun data => (ih _).bind fun rest => .const _

theorem frugal_picture (f : File) (l : Layout) : IsFrugal (f.picture l) := by
  unfold File.picture
  exact .asking _ (((frugal_readStrips _ l _ _).sub _).bind fun data => .const _)

theorem openTiff_isSound [FurtherReaders] (b : Bytes) : Yields (openTiff b) Source.IsSound := by
  unfold openTiff
  refine .skip fun f => ?_
  split
  · exact FurtherReaders.openOr_isSound _ _ _ _
  · exact .error _
  · next l hl =>
    have hsides := yields_layout f l hl
    refine .ok (Source.isSound_of_frugal hsides.1 hsides.2 (fun memory => ?_) (frugal_picture f l))
    unfold File.picture
    dsimp only
    split
    · exact .error _
    · exact .skip fun data => .ok (size_assemble f l _)

end Tiff

/-! ## Lossless and lossy pictures in chunks -/

namespace Webp

theorem reads_bits (n : Nat) : Reads (bits n) (· < Nat.pow 2 n) := by
  intro b
  unfold bits
  split
  · next r hr => exact .ok (Bits.lowNumber?_lt hr)
  · exact .error _

theorem reads_losslessHead :
    Reads readLosslessHead fun head => IsSide head.width ∧ IsSide head.height := by
  have hside {n : Nat} (h : n < Nat.pow 2 14) : IsSide (n + 1) :=
    .succ (k := 2) (Nat.lt_trans h (by decide)) (by decide)
  unfold readLosslessHead
  refine .skip fun _ => ?_
  split
  · exact fun _ => .error _
  refine (reads_bits 14).bind fun w hw => (reads_bits 14).bind fun h hh => ?_
  refine .skip fun _ => .skip fun _ => ?_
  split
  · exact fun _ => .error _
  · exact .pure ⟨hside hw, hside hh⟩

theorem reads_lossyFrame : Reads Lossy.readFrame fun f => IsSide f.width ∧ IsSide f.height := by
  have hside (n : Nat) : IsSide (n % 0x4000) :=
    .of_lt (k := 2) (Nat.lt_trans (Nat.mod_lt n (by decide)) (by decide)) (by decide)
  unfold Lossy.readFrame
  refine .skip fun _ => ?_
  split
  · exact reads_fail _
  split
  · exact reads_fail _
  refine .skip fun _ => ?_
  split
  · exact reads_fail _
  refine .skip fun w => .skip fun h => ?_
  dsimp only
  split
  · exact reads_fail _
  · exact .pure ⟨hside w, hside h⟩

/-! ### Pictures of a given size -/

theorem yields_lossless (w h : Nat) (data : Bytes) :
    Yields (lossless w h data) fun r => r.width = w ∧ r.height = h := by
  unfold lossless
  refine .skip fun ⟨r, _⟩ => ?_
  dsimp only
  split
  · next hsize => exact .ok hsize
  · exact .error _

theorem yields_lossy (w h : Nat) (data : Bytes) :
    Yields (lossy w h data) fun r => r.width = w ∧ r.height = h := by
  unfold lossy
  refine .skip fun r => ?_
  split
  · next hsize => exact .ok hsize
  · exact .error _

theorem yields_lossyWithOpacity (w h : Nat) (data : Bytes) (alpha : Option Bytes) :
    Yields (lossyWithOpacity w h data alpha) fun r => r.width = w ∧ r.height = h := by
  unfold lossyWithOpacity
  refine (yields_lossy w h data).bind fun r hr => ?_
  split
  · exact .error _
  · exact .skip fun alpha => .ok hr

theorem yields_picture (w h : Nat) (hasAlpha : Bool) (s : Stored) :
    Yields (s.picture w h hasAlpha) fun p => p.width = w ∧ p.height = h := by
  unfold Stored.picture
  split
  · refine (yields_lossless w h _).bind fun r hr => ?_
    split <;> exact .ok hr
  · split
    · exact (yields_lossyWithOpacity w h _ _).map fun r hr => hr
    · exact (yields_lossy w h _).map fun r hr => hr

theorem yields_animation (w h : Nat) (hasAlpha : Bool) (f : AnimationFrame) :
    Yields (f.picture w h hasAlpha) fun p => p.width = w ∧ p.height = h := by
  unfold AnimationFrame.picture
  split
  · exact .error _
  refine .skip fun r => ?_
  dsimp only
  split <;> exact .ok ⟨rfl, rfl⟩

theorem sourceOf_isSound {w h : Nat} (hw : IsSide w) (hh : IsSide h) (hasAlpha : Bool)
    (orientation : Except ImageFault (Option Orientation)) {picture : Except ImageFault Picture}
    (hpicture : Yields picture fun p => p.width = w ∧ p.height = h) :
    (sourceOf w h hasAlpha orientation fun _ => picture).IsSound :=
  Source.isSound_of_const hw hh hpicture

/-! ### Files -/

theorem openLossless_isSound (data : Bytes) : Yields (openLossless data) Source.IsSound := by
  unfold openLossless
  split
  · exact .error _
  refine (reads_losslessHead _).bind fun ⟨head, _⟩ hhead => .ok ?_
  exact sourceOf_isSound hhead.1 hhead.2 _ _ (yields_picture _ _ _ _)

theorem openLossy_isSound (data : Bytes) : Yields (openLossy data) Source.IsSound := by
  unfold openLossy
  refine (reads_lossyFrame _).bind fun ⟨f, _⟩ hf => .ok ?_
  exact sourceOf_isSound hf.1 hf.2 _ _ (yields_picture _ _ _ _)

theorem reads_extent : Reads readExtent fun e => IsSide e.width ∧ IsSide e.height := by
  unfold readExtent
  refine .skip fun _ => .skip fun _ => ?_
  refine (reads_little _ 3).bind fun w hw => (reads_little _ 3).bind fun h hh => ?_
  exact .pure ⟨.succ hw (by decide), .succ hh (by decide)⟩

theorem openAnimation_isSound {e : Extent} (hw : IsSide e.width) (hh : IsSide e.height)
    (cs : List Chunk) (orientation : Except ImageFault (Option Orientation)) :
    Yields (openAnimation e cs orientation) Source.IsSound := by
  unfold openAnimation
  split
  · split
    · exact .error _
    split
    · exact .error _
    · exact .ok (sourceOf_isSound hw hh _ _ (.skip fun ⟨f, _⟩ => yields_animation _ _ _ _))
  · exact .error _

theorem openExtended_isSound (size : Nat) (b : Bytes) : Yields (openExtended size b) Source.IsSound := by
  unfold openExtended
  refine (reads_extent b).bind fun ⟨e, _⟩ he => ?_
  dsimp only at he ⊢
  split
  · exact .error _
  split
  · exact openAnimation_isSound he.1 he.2 _ _
  split
  · exact .ok (sourceOf_isSound he.1 he.2 _ _ (yields_picture _ _ _ _))
  · exact .ok (sourceOf_isSound he.1 he.2 _ _ (yields_picture _ _ _ _))
  · exact .error _

theorem openWebp_isSound (b : Bytes) : Yields (openWebp b) Source.IsSound := by
  unfold openWebp
  refine .skip fun ⟨_, b⟩ => .skip fun ⟨⟨name, size⟩, b⟩ => ?_
  dsimp only
  split
  · exact openLossless_isSound _
  split
  · exact openExtended_isSound size b
  split
  · exact openLossy_isSound _
  · exact .error _

end Webp

/-! ## All formats -/

/-- **Every source has the size that it announces**, and its sides fit into four bytes. -/
theorem Source.ofBytes_isSound [FurtherReaders] (b : Bytes) :
    Yields (Source.ofBytes b) Source.IsSound := by
  unfold Source.ofBytes
  split
  · exact .error _
  next f _ =>
  cases f with
  | png => exact Png.openPng_isSound b
  | jpeg => exact Jpeg.openJpeg_isSound b
  | gif => exact Gif.openGif_isSound b
  | webp => exact Webp.openWebp_isSound b
  | tiff => exact Tiff.openTiff_isSound b
  | bmp => exact Bmp.openBmp_isSound b
  | _ => exact .error _

/-- The sides of a picture fit into four bytes. -/
def Picture.HasSides (p : Picture) : Prop :=
  IsSide p.width ∧ IsSide p.height

theorem Picture.hasSides_orient {p : Picture} (h : p.HasSides) (o : Orientation) :
    (p.orient o).HasSides := by
  have hsides : ∀ w h, IsSide w → IsSide h → IsSide (o.outWidth w h) ∧ IsSide (o.outHeight w h) := by
    intro w h hw hh
    unfold Orientation.outWidth Orientation.outHeight
    split
    · exact ⟨hh, hw⟩
    · exact ⟨hw, hh⟩
  cases p <;> exact hsides _ _ h.1 h.2

theorem readUpright_hasSides [FurtherReaders] (b : Bytes) :
    Yields (readUpright b) Picture.HasSides := by
  unfold readUpright
  refine (Source.ofBytes_isSound b).bind fun s hs => ?_
  refine .skip fun o => Yields.bind (hs.picture memoryLimit) fun p hp => .ok ?_
  apply Picture.hasSides_orient
  unfold Picture.HasSides
  rw [hp.1, hp.2]
  exact ⟨hs.width, hs.height⟩

theorem Picture.size_toRgba8 (p : Picture) :
    p.toRgba8.width = p.width ∧ p.toRgba8.height = p.height := by
  cases p <;> exact ⟨rfl, rfl⟩

end Cutout
