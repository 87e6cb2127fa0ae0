import Cutout.Codec.Open
import Cutout.Proofs.Codec.Webp.Picture

/-!
# Files of lossy pictures are opened again

A file that is written begins with the picture itself if it is opaque, and else with a chunk that
announces its opacity. Either way it is opened with the size of the picture, and its pixels have the
opacity that they were written with (`exists_openWebp_encode`). The service reads the file again as long
as it takes no more memory than it grants (`readStored_encode`).
-/

namespace Cutout.Webp

variable {r : Raster (Rgba UInt8)}

/-! ## The chunks of a picture -/

/-- The chunk with the colours. -/
def colorChunk (r : Raster (Rgba UInt8)) : Chunk :=
  ⟨lossyName, Lossy.encode r⟩

theorem chunksOf_eq_one (h : isOpaque r = true) : chunksOf r = [colorChunk r] := by
  unfold chunksOf
  exact if_pos h

theorem chunksOf_eq_three (h : isOpaque r = false) :
    chunksOf r = [extentChunk r.width r.height, alphaChunk r, colorChunk r] := by
  unfold chunksOf
  exact if_neg (by simp [h])

theorem length_alphas (r : Raster (Rgba UInt8)) :
    (r.toList.map Rgba.alpha).length = r.width * r.height := by
  rw [List.length_map, Raster.toList, Array.length_toList, r.size_pixels]

theorem fits_colorChunk (h : Lossy.Fits r) : (colorChunk r).Fits := by
  have hmodes := Lossy.length_write_modes h.width_le h.height_le
  have hrest := Lossy.length_write_rest h.width_le h.height_le
  refine ⟨rfl, ?_⟩
  show (Lossy.encode r).length < 4294967296
  unfold Lossy.encode Lossy.Frame.bytes
  simp only [List.length_append, Bytes.length_ofNatLE]
  have hmark : Lossy.sizeMark.length = 3 := rfl
  omega

theorem fits_alphaChunk (h : Lossy.Fits r) : (alphaChunk r).Fits := by
  have hsize : r.width * r.height ≤ longestSide * longestSide := Nat.mul_le_mul h.width_le h.height_le
  refine ⟨rfl, ?_⟩
  show (r.toList.map Rgba.alpha).length + 1 < 4294967296
  rw [length_alphas]
  exact Nat.lt_of_le_of_lt (Nat.succ_le_succ hsize) (by decide)

theorem fits_extentChunk (w h : Nat) : (extentChunk w h).Fits := by
  refine ⟨rfl, ?_⟩
  simp [extentChunk, Bytes.length_ofNatLE]

/-- The first chunk of a file says how it is opened. -/
theorem openWebp_fileOf {c : Chunk} (h : c.Fits) (cs : List Chunk) :
    openWebp (fileOf (c :: cs)) =
      if c.name = losslessName then openLossless c.data
      else if c.name = extendedName then
        openExtended c.data.length (c.data ++ (c.filling ++ cs.flatMap Chunk.bytes))
      else if c.name = lossyName then openLossy c.data
      else .error (fault "unexpected chunk") := by
  unfold openWebp
  rw [content_fileOf, List.flatMap_cons]
  simp only [bind, Except.bind, chunkHead_bytes h, List.take_left]

/-- The size and the parts that a file announces are read. -/
theorem gives_readExtent (h : Lossy.Fits r) :
    Gives readExtent (extentChunk r.width r.height).data
      ⟨true, false, false, false, r.width, r.height⟩ := by
  obtain ⟨hwidth, hheight, hwide, hhigh⟩ := h
  have hside {side : Nat} (hpos : 0 < side) (hle : side ≤ longestSide) :
      side - 1 < Nat.pow 256 3 ∧ side - 1 + 1 = side := by
    have hlongest : longestSide = 16383 := rfl
    refine ⟨?_, by omega⟩
    show side - 1 < 16777216
    omega
  have hdata : (extentChunk r.width r.height).data =
      [0x10] ++ ([0, 0, 0] ++ (Bytes.ofNatLE 3 (r.width - 1) ++ Bytes.ofNatLE 3 (r.height - 1))) := rfl
  have hreserved : ([0, 0, 0] : Bytes).length = 3 := rfl
  rw [hdata]
  refine (gives_byte _ 0x10).bind ((gives_bytes _ hreserved).bind
    ((gives_little _ (hside hwidth hwide).1).bind
      ((gives_little _ (hside hheight hhigh).1).bind_last ?_)))
  rw [(hside hwidth hwide).2, (hside hheight hhigh).2]
  exact .pure _

/-- A picture that is announced is opened with its opacity. -/
theorem openExtended_chunks (h : Lossy.Fits r) :
    let c := extentChunk r.width r.height
    openExtended c.data.length
        (c.data ++ (c.filling ++ [alphaChunk r, colorChunk r].flatMap Chunk.bytes)) =
      .ok (sourceOf r.width r.height true (.ok none) fun _ =>
        (Stored.lossy (colorChunk r).data (some (alphaChunk r).data)).picture r.width r.height true) := by
  intro c
  have hfits : ∀ d ∈ [alphaChunk r, colorChunk r], d.Fits := by
    intro d hd
    rcases List.mem_pair.1 hd with rfl | rfl
    · exact fits_alphaChunk h
    · exact fits_colorChunk h
  unfold openExtended
  rw [gives_readExtent h]
  simp only [bind, Except.bind, drop_filled, chunks_flatMap hfits, complete_flatMap hfits]
  rfl

theorem openLossy_encode (h : Lossy.Fits r) :
    openLossy (colorChunk r).data =
      .ok (sourceOf r.width r.height false (.ok none) fun _ =>
        (Stored.lossy (colorChunk r).data none).picture r.width r.height false) := by
  unfold openLossy colorChunk
  rw [Lossy.readFrame_encode h]
  rfl

/-! ## Pixels -/

theorem isOpaque_iff (r : Raster (Rgba UInt8)) :
    isOpaque r = true ↔ ∀ p ∈ r.toList, p.alpha = 255 := by
  unfold isOpaque Raster.toList
  rw [Array.all_eq_true_iff_forall_mem]
  simp

/-- The pixels of an opaque picture have the opacity of one that has none. -/
theorem map_alpha_rgb (h : isOpaque r = true) {p : Raster (Rgb UInt8)}
    (hwidth : p.width = r.width) (hheight : p.height = r.height) :
    (Picture.rgb8 p).toRgba8.map Rgba.alpha = r.map Rgba.alpha := by
  refine Raster.ext_get? hwidth hheight fun x y => ?_
  show ((p.map _).map Rgba.alpha).get? x y = _
  rw [Raster.get?_map, Raster.get?_map, Raster.get?_map]
  by_cases hxy : x < r.width ∧ y < r.height
  · obtain ⟨q, hq⟩ := Option.isSome_iff_exists.1 (Raster.isSome_get?.2 hxy)
    obtain ⟨c, hc⟩ := Option.isSome_iff_exists.1
      (Raster.isSome_get?.2 (show x < p.width ∧ y < p.height by rwa [hwidth, hheight]))
    have hmem : q ∈ r.toList := by
      rw [Raster.get?_of_lt hxy.1 hxy.2] at hq
      exact Array.mem_toList_iff.2 (Array.mem_of_getElem? hq)
    rw [hq, hc]
    exact congrArg some ((isOpaque_iff r).1 h q hmem).symm
  · rw [Raster.get?_eq_none hxy, Raster.get?_eq_none (by rwa [hwidth, hheight])]
    rfl

/-- Pixels get the opacity that was stored apart. -/
theorem map_alpha_withOpacity {p : Raster (Rgb UInt8)} (hwidth : p.width = r.width)
    (hheight : p.height = r.height) :
    (withOpacity p (r.toList.map Rgba.alpha).toArray).map Rgba.alpha = r.map Rgba.alpha := by
  refine Raster.ext_get? hwidth hheight fun x y => ?_
  rw [Raster.get?_map, Raster.get?_map, withOpacity, Raster.get?_ofFn, hwidth, hheight]
  by_cases hxy : x < r.width ∧ y < r.height
  · obtain ⟨q, hq⟩ := Option.isSome_iff_exists.1 (Raster.isSome_get?.2 hxy)
    have hplace := hq
    rw [Raster.get?_of_lt hxy.1 hxy.2] at hplace
    have halpha : (r.toList.map Rgba.alpha).toArray.getD (y * r.width + x) 255 = q.alpha := by
      rw [Array.getD_eq_getD_getElem?, List.getElem?_toArray, List.getElem?_map, Raster.toList,
        Array.getElem?_toList, hplace]
      rfl
    rw [if_pos hxy, hq]
    exact congrArg some halpha
  · rw [if_neg hxy, Raster.get?_eq_none hxy]

/-! ## Reading again -/

/-- The pixel type that a file is read with. -/
def storedType (r : Raster (Rgba UInt8)) : PixelType :=
  if isOpaque r then .rgb8 else .rgba8

/-- **A file is opened again** with the size and the opacity of the picture. -/
theorem exists_openWebp_encode (h : Lossy.Fits r) :
    ∃ s p, openWebp (fileOf (chunksOf r)) = .ok s ∧ s.width = r.width ∧ s.height = r.height ∧
      s.pixelType = storedType r ∧ (∀ memory, s.picture memory = .ok p) ∧
      p.toRgba8.map Rgba.alpha = r.map Rgba.alpha := by
  obtain ⟨p, hdecode, hwidth, hheight⟩ := Lossy.exists_decode_encode h
  have hlossy : lossy r.width r.height (colorChunk r).data = .ok p := by
    unfold lossy colorChunk
    rw [hdecode]
    exact if_pos ⟨hwidth, hheight⟩
  cases hfull : isOpaque r with
  | true =>
    rw [chunksOf_eq_one hfull, openWebp_fileOf (fits_colorChunk h)]
    refine ⟨_, .rgb8 p, openLossy_encode h, rfl, rfl, ?_, ?_,
      map_alpha_rgb hfull hwidth hheight⟩
    · exact (if_pos hfull).symm
    · intro _
      show (lossy r.width r.height (colorChunk r).data).map Picture.rgb8 = _
      rw [hlossy]
      rfl
  | false =>
    have halpha : opacity r.width r.height (alphaChunk r).data =
        .ok (r.toList.map Rgba.alpha).toArray := opacity_stored (length_alphas r)
    rw [chunksOf_eq_three hfull, openWebp_fileOf (fits_extentChunk _ _)]
    refine ⟨_, .rgba8 (withOpacity p (r.toList.map Rgba.alpha).toArray), openExtended_chunks h, rfl, rfl,
      ?_, ?_, map_alpha_withOpacity hwidth hheight⟩
    · exact (if_neg (by simp [hfull])).symm
    · intro _
      show (lossyWithOpacity r.width r.height (colorChunk r).data
        (some (alphaChunk r).data)).map Picture.rgba8 = _
      unfold lossyWithOpacity
      rw [hlossy]
      simp only [bind, Except.bind, halpha, pure, Except.pure]
      rfl

/-- Both sides of a picture that is written are at least one and not too long. -/
theorem fits_iff_exists_encode : Lossy.Fits r ↔ ∃ b, encode r = .ok b := by
  constructor
  · intro h
    obtain ⟨hwidth, hheight, hwide, hhigh⟩ := h
    refine ⟨fileOf (chunksOf r), if_neg (by omega)⟩
  · rintro ⟨b, h⟩
    unfold encode at h
    split at h
    · cases h
    · exact ⟨by omega, by omega, by omega, by omega⟩

theorem encode_eq_ok {b : Bytes} (h : encode r = .ok b) : Lossy.Fits r ∧ b = fileOf (chunksOf r) := by
  refine ⟨fits_iff_exists_encode.2 ⟨b, h⟩, ?_⟩
  unfold encode at h
  split at h
  · cases h
  · exact (Except.ok.inj h).symm

/-- **A file is read again** with the size and the opacity of the picture, unless it takes too much
memory. -/
theorem readStored_encode [FurtherReaders] {b : Bytes} (h : encode r = .ok b) :
    ∃ q : Raster (Rgba UInt8), q.map Rgba.alpha = r.map Rgba.alpha ∧
      Cutout.readStored b =
        if memoryLimit < r.width * r.height * (storedType r).bytes then .error (.limits .memory)
        else .ok q := by
  obtain ⟨hfits, rfl⟩ := encode_eq_ok h
  obtain ⟨s, p, hopen, hwidth, hheight, htype, hpicture, halpha⟩ := exists_openWebp_encode hfits
  refine ⟨p.toRgba8, halpha, ?_⟩
  have hsource : Source.ofBytes (fileOf (chunksOf r)) = .ok s := by
    unfold Source.ofBytes
    rw [sniff_fileOf]
    exact hopen
  have hsize : s.size = r.width * r.height * (storedType r).bytes := by
    unfold Source.size
    rw [hwidth, hheight, htype]
  rw [← hsize]
  exact readStored_of_ofBytes hsource (hpicture _)

end Cutout.Webp
