import Cutout.Codec.Encode
import Cutout.Codec.Open
import Cutout.Proofs.Codec.Deflate
import Cutout.Proofs.Codec.Yields

/-!
# Pictures that are written are read

Each layer of the format is read back as it was written, whatever follows it: a chunk
(`chunkStart_chunk`, `chunkBody_chunk`), the header (`preface_written`), the stream in its chunks
(`continues_pixelChunks`), the rows in the stream (`readPasses_rowsData`) and the samples in a row
(`samplesAt_written`). Together, a picture is the one in its file (`decode_encode`), and the service
reads it again as long as it takes no more memory than it grants (`readStored_encode`).
-/

namespace Cutout

namespace Png

/-! ## Chunks -/

theorem length_check (k : Kind) (data : Bytes) : (check k data).length = 4 :=
  Bytes.length_ofNatBE ..

theorem take_append {a : Bytes} {n : Nat} (h : a.length = n) (b : Bytes) :
    take n (a ++ b) = .ok (a, b) := by
  rw [take, Bytes.take?_append h]

/-- The length and the kind of a chunk are read, whatever follows it. -/
theorem chunkStart_chunk {k : Kind} {data : Bytes} (hkind : k.length = 4)
    (hdata : data.length < 4294967296) (rest : Bytes) :
    chunkStart (chunk k data ++ rest) = .ok (data.length, k, data ++ (check k data ++ rest)) := by
  have hlength : Bytes.toNatBE (Bytes.ofNatBE 4 data.length) = data.length :=
    Bytes.toNatBE_ofNatBE hdata
  unfold chunkStart chunk
  simp only [List.append_assoc, take_append (Bytes.length_ofNatBE 4 data.length), bind, Except.bind,
    take_append hkind, hlength, pure, Except.pure]

/-- The data of a chunk are read, and its checksum is found right. -/
theorem chunkBody_chunk (k : Kind) (data rest : Bytes) :
    chunkBody data.length k (data ++ (check k data ++ rest)) = .ok (data, true, rest) := by
  unfold chunkBody
  simp only [take_append rfl, take_append (length_check k data), bind, Except.bind, pure, Except.pure,
    beq_self_eq_true]

/-! ## The header -/

/-- The header that is written. -/
def plainHeader (w h : Nat) : Header :=
  ⟨w, h, 8, .rgba, false⟩

/-- The sides can be written, and there are pixels. -/
structure Fits (w h : Nat) : Prop where
  width_pos : 0 < w
  height_pos : 0 < h
  width_side : IsSide w
  height_side : IsSide h

theorem Header.read_headerData {w h : Nat} (hfits : Fits w h) :
    Header.read (headerData w h) = .ok (plainHeader w h) := by
  have hwidth : Bytes.toNatBE (Bytes.ofNatBE 4 w) = w := Bytes.toNatBE_ofNatBE hfits.width_side
  have hheight : Bytes.toNatBE (Bytes.ofNatBE 4 h) = h := Bytes.toNatBE_ofNatBE hfits.height_side
  have hpixels : ¬ (w = 0 ∨ h = 0) := by
    have hw := hfits.width_pos
    have hh := hfits.height_pos
    omega
  unfold Header.read headerData
  simp only [List.append_assoc, Bytes.take?_append (Bytes.length_ofNatBE 4 w),
    Bytes.take?_append (Bytes.length_ofNatBE 4 h), hwidth, hheight, hpixels, if_false]
  rfl

/-- The header is read, and nothing else is found in front of the pixels. -/
theorem preface_written {w h : Nat} (hfits : Fits w h) {data : Bytes}
    (hdata : data.length < 4294967296) (rest : Bytes) :
    preface (signature ++ (chunk headerKind (headerData w h) ++ (chunk pixelsKind data ++ rest))) =
      .ok (⟨plainHeader w h, none, none, none⟩, data.length,
        data ++ (check pixelsKind data ++ rest)) := by
  have hheader : (headerData w h).length < 4294967296 := by
    simp [headerData]
  have hfuel : ∃ fuel, (chunk pixelsKind data ++ rest).length = fuel + 1 := by
    refine ⟨(chunk pixelsKind data ++ rest).length - 1, ?_⟩
    simp [chunk, pixelsKind, Bytes.ofAscii]
    omega
  obtain ⟨fuel, hfuel⟩ := hfuel
  unfold preface
  simp only [take_append (show signature.length = 8 from rfl), bind, Except.bind,
    chunkStart_chunk (show headerKind.length = 4 from rfl) hheader, ne_eq, not_true_eq_false, if_false,
    chunkBody_chunk, Bool.not_true, Bool.false_eq_true, Header.read_headerData hfits, hfuel,
    readPreface, chunkStart_chunk (show pixelsKind.length = 4 from rfl) hdata, if_true, pure,
    Except.pure, Option.isNone_none]
  simp [plainHeader]

/-! ## The stream in its chunks -/

/-- The stream ends with a chunk of pixels if another kind of chunk follows. -/
theorem stream_last {data rest b : Bytes} {n : Nat} {k : Kind} (h : chunkStart rest = .ok (n, k, b))
    (hkind : k ≠ pixelsKind) (fuel : Nat) :
    stream (fuel + 1) data.length (data ++ (check pixelsKind data ++ rest)) = (data, .whole) := by
  simp only [stream, Bytes.take?_append rfl, Bytes.take?_append (length_check pixelsKind data), ne_eq,
    not_true_eq_false, if_false, h, hkind]

/-- The stream goes on behind a chunk of pixels if another one follows. -/
theorem stream_more {data rest b s : Bytes} {n fuel : Nat}
    (h : chunkStart rest = .ok (n, pixelsKind, b)) (hstream : stream fuel n b = (s, .whole)) :
    stream (fuel + 1) data.length (data ++ (check pixelsKind data ++ rest)) =
      (data ++ s, .whole) := by
  simp only [stream, Bytes.take?_append rfl, Bytes.take?_append (length_check pixelsKind data), ne_eq,
    not_true_eq_false, if_false, if_true, h, hstream]

/-- A file goes on with a chunk of pixels, and from there on the whole stream is read. -/
def Continues (fuel : Nat) (s b : Bytes) : Prop :=
  ∃ data rest, b = chunk pixelsKind data ++ rest ∧ data.length < 4294967296 ∧
    s.length ≤ (data ++ rest).length ∧ ∀ fuel', fuel ≤ fuel' →
      stream fuel' data.length (data ++ (check pixelsKind data ++ rest)) = (s, .whole)

/-- A stream is read from its chunks, if the last chunk of the file is behind them. -/
theorem continues_pixelChunks {fuel : Nat} {s : Bytes} (hpos : 0 < fuel)
    (h : s.length ≤ fuel * longestChunk) :
    Continues fuel s (pixelChunks fuel s ++ chunk endKind []) := by
  refine Bytes.pieces_induction
    (motive := fun fuel s => Continues fuel s (pixelChunks fuel s ++ chunk endKind [])) ?_ ?_ hpos h
  · intro fuel s hfits
    have hdata : s.length < 4294967296 := Nat.lt_of_le_of_lt hfits (by decide)
    refine ⟨s, chunk endKind [], by rw [pixelChunks, if_pos hfits], hdata, by simp, ?_⟩
    intro fuel' hfuel
    obtain ⟨fuel', rfl⟩ : ∃ k, fuel' = k + 1 := ⟨fuel' - 1, by omega⟩
    have hend : chunkStart (chunk endKind [] ++ []) =
        .ok (0, endKind, [] ++ (check endKind [] ++ [])) := chunkStart_chunk rfl (by decide) []
    rw [List.append_nil] at hend
    exact stream_last hend (by decide) fuel'
  · rintro fuel s hlong ⟨data, rest, heq, hdata, hlength, hstream⟩
    have hfront : (s.take longestChunk).length = longestChunk := by
      rw [List.length_take, Nat.min_eq_left (Nat.le_of_lt hlong)]
    refine ⟨s.take longestChunk, chunk pixelsKind data ++ rest, ?_, ?_, ?_, ?_⟩
    · rw [pixelChunks, if_neg (Nat.not_le.2 hlong), List.append_assoc, heq]
    · rw [hfront]
      decide
    · rw [List.length_drop, List.length_append] at hlength
      simp only [List.length_append, hfront, chunk]
      omega
    · intro fuel' hfuel
      obtain ⟨fuel', rfl⟩ : ∃ k, fuel' = k + 1 := ⟨fuel' - 1, by omega⟩
      have hnext := chunkStart_chunk (show pixelsKind.length = 4 from rfl) hdata rest
      rw [stream_more hnext (hstream fuel' (Nat.le_of_succ_le_succ hfuel)), List.take_append_drop]

/-! ## Rows -/

/-- In a list of runs of the same length, an entry is found by its run and its place in it. -/
theorem getElem?_flatMap {α β : Type} {f : α → List β} {n : Nat} (hlength : ∀ a, (f a).length = n)
    (l : List α) (i : Nat) {c : Nat} (hc : c < n) :
    (l.flatMap f)[i * n + c]? = l[i]?.bind fun a => (f a)[c]? := by
  induction l generalizing i with
  | nil => simp
  | cons a l ih =>
    rw [List.flatMap_cons]
    cases i with
    | zero =>
      rw [Nat.zero_mul, Nat.zero_add, List.getElem?_append_left (by rw [hlength a]; exact hc)]
      rfl
    | succ i =>
      have hplace : (i + 1) * n + c - (f a).length = i * n + c := by
        rw [hlength a, Nat.succ_mul]
        omega
      rw [List.getElem?_append_right (by rw [hlength a, Nat.succ_mul]; omega), hplace, ih]
      rfl

variable {r : Raster (Rgba UInt8)}

/-- The bytes of a row behind the number of its filter. -/
def rowBytes (r : Raster (Rgba UInt8)) (y : Nat) : Bytes :=
  (List.range r.width).flatMap fun x => pixelData (r.getD x y Rgba.clear)

theorem length_rowBytes (r : Raster (Rgba UInt8)) (y : Nat) :
    (rowBytes r y).length = 4 * r.width := by
  have hpixels (l : List Nat) :
      (l.flatMap fun x => pixelData (r.getD x y Rgba.clear)).length = 4 * l.length := by
    induction l with
    | nil => rfl
    | cons x l ih =>
      rw [List.flatMap_cons, List.length_append, ih, List.length_cons, pixelData]
      simp only [List.length_cons, List.length_nil]
      omega
  rw [rowBytes, hpixels, List.length_range]

/-- Rows without a filter are read as they were written. -/
theorem readRows_rowData (stride : Nat) (above : Array UInt8) (ys : List Nat) (rest : Bytes) :
    readRows stride (4 * r.width) ys.length above (ys.flatMap (rowData r) ++ rest) =
      .ok (ys.map fun y => (rowBytes r y).toArray, rest) := by
  induction ys generalizing above with
  | nil => rfl
  | cons y ys ih =>
    have hrow : (y :: ys).flatMap (rowData r) ++ rest =
        0 :: (rowBytes r y ++ (ys.flatMap (rowData r) ++ rest)) := by
      rw [List.flatMap_cons, List.append_assoc]
      rfl
    rw [hrow, List.length_cons, readRows]
    simp only [Bytes.take?_append (length_rowBytes r y), unfilter?, UInt8.toNat_zero, if_true, ih, bind,
      Except.bind, pure, Except.pure, List.map_cons]

/-- The rows of a picture in the one pass that there is. -/
theorem readPasses_rowsData (r : Raster (Rgba UInt8)) (hwidth : 0 < r.width) :
    readPasses (plainHeader r.width r.height) (plainHeader r.width r.height).passes (rowsData r) =
      .ok [(Pass.whole, ((List.range r.height).map fun y => (rowBytes r y).toArray).toArray)] := by
  have hcolumns : Pass.whole.width (plainHeader r.width r.height) = r.width := by
    simp [Pass.width, Pass.whole, stepsBelow, plainHeader]
  have hrows : Pass.whole.height (plainHeader r.width r.height) = r.height := by
    unfold Pass.height
    rw [hcolumns, if_neg (Nat.ne_of_gt hwidth)]
    simp [Pass.whole, stepsBelow, plainHeader]
  have hsize : (plainHeader r.width r.height).rowBytes r.width = 4 * r.width := by
    show (r.width * 4 * 8 + 7) / 8 = 4 * r.width
    omega
  have hread := readRows_rowData (r := r) (plainHeader r.width r.height).stride #[]
    (List.range r.height) []
  rw [List.append_nil, List.length_range] at hread
  show readPasses _ [Pass.whole] (rowsData r) = _
  unfold readPasses
  rw [hcolumns, hrows, hsize, rowsData, hread]
  rfl

/-! ## Pixels -/

/-- A sample of eight bits is a byte of its row. -/
theorem sampleAt_eight (row : Array UInt8) (k : Nat) : sampleAt 8 row k = (row.getD k 0).toNat := by
  have hlt : (row.getD k 0).toNat < 256 := UInt8.toNat_lt _
  have hplace : k * 8 / 8 = k := Nat.mul_div_cancel k (by decide)
  have hbit : 8 - 8 - k * 8 % 8 = 0 := by omega
  unfold sampleAt
  simp only [show ¬ (8 = 16) by decide, if_false, hplace, hbit, Nat.shiftRight_zero]
  exact Nat.mod_eq_of_lt hlt

/-- The samples of a pixel are read as they were written. -/
theorem samplesAt_written {x y : Nat} (hx : x < r.width) (hy : y < r.height) :
    samplesAt (plainHeader r.width r.height)
        [(Pass.whole, ((List.range r.height).map fun y => (rowBytes r y).toArray).toArray)] x y =
      (pixelData (r.getD x y Rgba.clear)).map UInt8.toNat := by
  have hrow : ((List.range r.height).map fun y => (rowBytes r y).toArray).toArray.getD y #[] =
      (rowBytes r y).toArray := by
    simp [Array.getD, hy]
  have hsample (c : Nat) (hc : c < 4) :
      (rowBytes r y).toArray.getD (x * 4 + c) 0 = (pixelData (r.getD x y Rgba.clear)).getD c 0 := by
    have hpixel := getElem?_flatMap (f := fun x => pixelData (r.getD x y Rgba.clear)) (fun _ => rfl)
      (List.range r.width) x hc
    rw [List.getElem?_range hx] at hpixel
    rw [Array.getD_eq_getD_getElem?, List.getElem?_toArray, rowBytes, hpixel, List.getD_eq_getElem?_getD]
    rfl
  have hholds : Pass.whole.holds x y = true := by
    simp [Pass.holds, Pass.whole, Nat.mod_one]
  unfold samplesAt
  simp only [List.find?_cons, hholds]
  show (List.range 4).map (fun c => sampleAt 8 _ ((x - 0) / 1 * 4 + c)) = _
  simp only [Pass.whole, Nat.sub_zero, Nat.div_one, hrow, sampleAt_eight]
  rw [show List.range 4 = [0, 1, 2, 3] from rfl]
  simp only [List.map_cons, List.map_nil, hsample 0 (by decide), hsample 1 (by decide),
    hsample 2 (by decide), hsample 3 (by decide)]
  rfl

/-- A picture is put together from its samples. -/
theorem assemble_written (r : Raster (Rgba UInt8)) :
    Preface.assemble ⟨plainHeader r.width r.height, none, none, none⟩
        (samplesAt (plainHeader r.width r.height)
          [(Pass.whole, ((List.range r.height).map fun y => (rowBytes r y).toArray).toArray)]) =
      .rgba8 r := by
  show Picture.rgba8 (Raster.ofFn r.width r.height _) = _
  congr 1
  refine Raster.ext_get? (Raster.width_ofFn ..) (Raster.height_ofFn ..) fun x y => ?_
  rw [Raster.get?_ofFn]
  by_cases h : x < r.width ∧ y < r.height
  · rw [if_pos h]
    simp only [samplesAt_written h.1 h.2]
    obtain ⟨p, hp⟩ := Option.isSome_iff_exists.1 (Raster.isSome_get?.2 h)
    have hpixel : r.getD x y Rgba.clear = p := by
      rw [Raster.getD, hp]
      rfl
    rw [hpixel, hp]
    simp [pixelData]
  · rw [if_neg h, Raster.get?_eq_none h]

/-! ## Files -/

/-- The picture in a file, however much memory it takes. -/
def decode (b : Bytes) : Except ImageFault Picture := do
  let (p, n, rest) ← preface b
  (rows p.header n rest).map fun r => p.assemble (samplesAt p.header r)

/-- Opening a file and reading its pixels is decoding it. -/
theorem picture_openPng {b : Bytes} {s : Source} (h : openPng b = .ok s) (memory : Nat) :
    s.picture memory = decode b := by
  unfold openPng at h
  unfold decode
  cases hpreface : preface b with
  | error f =>
    rw [hpreface] at h
    cases h
  | ok found =>
    obtain ⟨p, n, rest⟩ := found
    rw [hpreface] at h
    simp only [bind, Except.bind] at h
    split at h
    · cases h
    · obtain rfl := Except.ok.inj h
      rfl

variable {b : Bytes}

/-- Only a picture with pixels is written. -/
theorem pos_of_encode (h : encode r = .ok b) : 0 < r.width ∧ 0 < r.height := by
  unfold encode at h
  split at h
  · cases h
  · omega

/-- A picture with pixels is written. -/
theorem exists_encode (h : 0 < r.width ∧ 0 < r.height) : ∃ b, encode r = .ok b := by
  have hsome : ¬ (r.width = 0 ∨ r.height = 0) := by omega
  exact ⟨_, if_neg hsome⟩

/-- What is written is a signature, the header, the chunks with the pixels, and the end. -/
theorem encode_eq_ok (h : encode r = .ok b) :
    b = signature ++ (chunk headerKind (headerData r.width r.height) ++
      (pixelChunks ((Deflate.pack (rowsData r)).length / longestChunk + 1) (Deflate.pack (rowsData r)) ++
        chunk endKind [])) := by
  unfold encode at h
  split at h
  · cases h
  · rw [← Except.ok.inj h]
    simp only [List.append_assoc]

/-- The preface and the rows are read as they were written. -/
theorem preface_encode (hfits : Fits r.width r.height) (h : encode r = .ok b) :
    ∃ n rest, preface b = .ok (⟨plainHeader r.width r.height, none, none, none⟩, n, rest) ∧
      rows (plainHeader r.width r.height) n rest =
        .ok [(Pass.whole, ((List.range r.height).map fun y => (rowBytes r y).toArray).toArray)] := by
  generalize hpacked : Deflate.pack (rowsData r) = packed at *
  have hlong := Bytes.length_le_pieces packed (show 0 < longestChunk by decide)
  obtain ⟨data, rest, hchunks, hdata, hlength, hstream⟩ :=
    continues_pixelChunks (Nat.succ_pos _) hlong
  refine ⟨data.length, data ++ (check pixelsKind data ++ rest), ?_, ?_⟩
  · rw [encode_eq_ok h, hpacked, hchunks]
    exact preface_written hfits hdata rest
  · have hfuel : packed.length / longestChunk + 1 ≤
        (data ++ (check pixelsKind data ++ rest)).length + 1 := by
      have hquot := Nat.div_le_self packed.length longestChunk
      simp only [List.length_append] at hlength ⊢
      omega
    unfold rows
    rw [hstream _ hfuel]
    simp only [wholeRows, ← hpacked, Inflate.unpack_pack, readPasses_rowsData r hfits.width_pos]

/-- **A picture is the one in its file**: writing loses nothing. -/
theorem decode_encode (hfits : Fits r.width r.height) (h : encode r = .ok b) :
    decode b = .ok (.rgba8 r) := by
  obtain ⟨n, rest, hpreface, hrows⟩ := preface_encode hfits h
  unfold decode
  rw [hpreface]
  simp only [bind, Except.bind, hrows, Except.map, assemble_written]

/-- What is written is opened again, unless a row takes too much memory. -/
theorem openPng_encode (hfits : Fits r.width r.height) (h : encode r = .ok b)
    (hrow : r.width * 4 ≤ memoryLimit) :
    ∃ s, openPng b = .ok s ∧ s.width = r.width ∧ s.height = r.height ∧ s.pixelType = .rgba8 ∧
      s.orientation = .ok none ∧ ∀ memory, s.picture memory = .ok (.rgba8 r) := by
  obtain ⟨n, rest, hpreface, -⟩ := preface_encode hfits h
  have hfew : ¬ memoryLimit < r.width * 4 := Nat.not_lt.2 hrow
  obtain ⟨s, hs, hsides⟩ : ∃ s, openPng b = .ok s ∧ s.width = r.width ∧ s.height = r.height ∧
      s.pixelType = .rgba8 ∧ s.orientation = .ok none := by
    unfold openPng
    rw [hpreface]
    refine ⟨_, if_neg hfew, rfl, rfl, rfl, rfl⟩
  refine ⟨s, hs, hsides.1, hsides.2.1, hsides.2.2.1, hsides.2.2.2, ?_⟩
  intro memory
  rw [picture_openPng hs, decode_encode hfits h]

/-- What is written begins like a file of this format. -/
theorem sniff_encode (h : encode r = .ok b) : ImageFormat.sniff b = some .png := by
  rw [encode_eq_ok h]
  rfl

/-! ## Reading again -/

theorem ofBytes_encode [FurtherReaders] (h : encode r = .ok b) : Source.ofBytes b = openPng b := by
  unfold Source.ofBytes
  rw [sniff_encode h]
  rfl

/-- A file with a row that takes too much memory is not opened. -/
theorem openPng_encode_of_large (hfits : Fits r.width r.height) (h : encode r = .ok b)
    (hrow : memoryLimit < r.width * 4) : openPng b = .error (.limits .memory) := by
  obtain ⟨n, rest, hpreface, -⟩ := preface_encode hfits h
  unfold openPng
  rw [hpreface]
  exact if_pos hrow

/-- A picture is read upright as it was written, unless a row takes too much memory. -/
theorem readUpright_encode [FurtherReaders] (hfits : Fits r.width r.height) (h : encode r = .ok b) :
    readUpright b =
      if memoryLimit < r.width * 4 then .error (.limits .memory) else .ok (.rgba8 r) := by
  unfold readUpright
  rw [ofBytes_encode h]
  by_cases hrow : memoryLimit < r.width * 4
  · rw [openPng_encode_of_large hfits h hrow, if_pos hrow]
    rfl
  · obtain ⟨s, hs, -, -, -, horientation, hpicture⟩ := openPng_encode hfits h (Nat.not_lt.1 hrow)
    have hstored : r.orient .asStored = r := by
      refine Raster.ext_get? rfl rfl fun x y => ?_
      by_cases hxy : x < r.width ∧ y < r.height
      · exact Raster.get?_orient .asStored r hxy.1 hxy.2
      · rw [Raster.get?_eq_none (r := r.orient .asStored) hxy, Raster.get?_eq_none hxy]
    rw [hs, if_neg hrow]
    simp only [bind, Except.bind, Source.upright, hpicture, horientation, Option.getD_none,
      Picture.orient, Picture.rearrange, hstored]
    rfl

/-- **A picture is read as it was written**, unless it takes too much memory. -/
theorem readStored_encode [FurtherReaders] (hfits : Fits r.width r.height) (h : encode r = .ok b) :
    readStored b =
      if memoryLimit < r.width * r.height * 4 then .error (.limits .memory) else .ok r := by
  have hmore : r.width * 4 ≤ r.width * r.height * 4 :=
    Nat.mul_le_mul_right 4 (Nat.le_mul_of_pos_right r.width hfits.height_pos)
  by_cases hrow : memoryLimit < r.width * 4
  · unfold readStored
    rw [ofBytes_encode h, openPng_encode_of_large hfits h hrow,
      if_pos (Nat.lt_of_lt_of_le hrow hmore)]
    rfl
  · obtain ⟨s, hs, hwidth, hheight, htype, -, hpicture⟩ :=
      openPng_encode hfits h (Nat.not_lt.1 hrow)
    have hsize : s.size = r.width * r.height * 4 := by
      unfold Source.size
      rw [hwidth, hheight, htype]
      rfl
    rw [← hsize]
    exact readStored_of_ofBytes ((ofBytes_encode h).trans hs) (hpicture _)

end Png

theorem Container.encode_png_eq_ok {r : Raster (Rgba UInt8)} {b : Bytes} :
    Container.png.encode r = .ok b ↔ Png.encode r = .ok b := by
  unfold Container.encode
  cases Png.encode r with
  | error f => exact ⟨fun h => (nomatch h), fun h => (nomatch h)⟩
  | ok file => exact ⟨fun h => congrArg _ (Except.ok.inj h), fun h => congrArg _ (Except.ok.inj h)⟩

end Cutout
