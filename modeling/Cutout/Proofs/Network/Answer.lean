import Cutout.Proofs.Matte.Empty
import Cutout.Proofs.Matte.Scores
import Cutout.Proofs.Network.Integrity

/-!
# What the answer of a network says

Of an answer, only the first output counts, and of this only the plane of the first channel of the first
picture: `Means` says for every answer what it comes to, a plane of scores or a failure. The numbers in
front of a tensor are this plane (`Tensor.take_eq_firstPlane`), so that the matte is that of its scores
(`Model.Means.predict_ok`), and a cutout stays the same whatever else is changed in the answer
(`Model.cut_congr`). A plane without a range leaves nothing of a picture (`Model.cut_of_isFlat`).
-/

namespace Cutout

/-! ## Places in a tensor -/

namespace Tensor

/-- The place of an index in the list of numbers. The last coordinate runs fastest. -/
def place : (shape index : List Nat) → Nat
  | _ :: shape, i :: index => i * volume shape + place shape index
  | _, _ => 0

/-- The number at an index. -/
def number (t : Tensor) (index : List Nat) : Float32 :=
  t.entry (place t.shape index)

/-- The first channel of the first picture, row by row. -/
def firstPlane (t : Tensor) (w h : Nat) : List Float32 :=
  (List.range h).flatMap fun y => (List.range w).map fun x => t.number [0, 0, y, x]

variable {t : Tensor} {pictures channels h w : Nat}

theorem number_eq (hshape : t.shape = [pictures, channels, h, w]) (y x : Nat) :
    t.number [0, 0, y, x] = t.entry (y * w + x) := by
  unfold number
  rw [hshape]
  simp [place, volume]

theorem length_firstPlane (t : Tensor) (w h : Nat) : (t.firstPlane w h).length = h * w := by
  simp [firstPlane]

/-- **The numbers in front are the first plane.** -/
theorem take_eq_firstPlane (hshape : t.shape = [pictures, channels, h, w])
    (hplane : 0 < pictures ∧ 0 < channels) :
    t.values.toList.take (h * w) = t.firstPlane w h := by
  have hsize := le_size hshape hplane
  apply List.ext_getElem?
  intro i
  by_cases hi : i < h * w
  · have hw : 0 < w := Nat.pos_of_mul_pos_left (Nat.zero_lt_of_lt hi)
    have hx : i % w < w := Nat.mod_lt i hw
    have hy : i / w < h := Nat.div_lt_of_lt_mul (by rwa [Nat.mul_comm])
    have hrow := Png.getElem?_flatMap (f := fun y => (List.range w).map fun x => t.number [0, 0, y, x])
      (fun y => by simp) (List.range h) (i / w) hx
    rw [Nat.div_add_mod', List.getElem?_range hy, Option.bind_some, List.getElem?_map,
      List.getElem?_range hx, Option.map_some, number_eq hshape, Nat.div_add_mod'] at hrow
    rw [firstPlane, hrow, List.getElem?_take_of_lt hi, Array.getElem?_toList, entry,
      Array.getD_eq_getD_getElem?, Array.getElem?_eq_getElem (Nat.lt_of_lt_of_le hi hsize)]
    rfl
  · rw [List.getElem?_eq_none, List.getElem?_eq_none]
    · rw [length_firstPlane]
      exact Nat.not_lt.1 hi
    · rw [List.length_take]
      omega

/-- The first planes of two tensors are the same if their numbers are. -/
theorem firstPlane_congr {t u : Tensor} {w h : Nat}
    (heq : ∀ y < h, ∀ x < w, t.number [0, 0, y, x] = u.number [0, 0, y, x]) :
    t.firstPlane w h = u.firstPlane w h := by
  refine List.flatMap_congr fun y hy => List.map_congr_left fun x hx => ?_
  exact heq y (List.mem_range.1 hy) x (List.mem_range.1 hx)

end Tensor

/-! ## What an answer comes to -/

namespace Model

/-- The scores of a plane, row by row. -/
structure Plane where
  width : Nat
  height : Nat
  scores : List Float32

/-- A plane without a range: unless none of its scores is a number, the smallest and the largest of
them are too close to each other, or not finitely far apart. -/
def Plane.IsFlat (p : Plane) : Prop :=
  ∀ lo hi, Matte.IsSmallest lo p.scores → Matte.IsLargest hi p.scores → Matte.IsFlat lo hi

/-- What an answer comes to: a plane, or a failure. -/
inductive Means : Option (List Output) → Except Failure Plane → Prop
  | noRun : Means none (.error (.inference "ONNX inference failed"))
  | noOutput : Means (some []) (.error (.inference "Model produced no outputs"))
  | otherNumbers (rest : List Output) :
    Means (some (.other :: rest)) (.error (.inference "Failed to extract output tensor"))
  | otherRank {t : Tensor} (rest : List Output) : t.shape.length ≠ 4 →
    Means (some (.single t :: rest)) (.error (.inference
      ("Expected 4D output tensor, got shape " ++ Tensor.shapeText t.shape)))
  | noPlane {t : Tensor} {pictures channels h w : Nat} (rest : List Output) :
    t.shape = [pictures, channels, h, w] → 0 < h * w → pictures = 0 ∨ channels = 0 →
    Means (some (.single t :: rest)) (.error (.inference "Output tensor is smaller than its shape"))
  | plane {t : Tensor} {pictures channels h w : Nat} (rest : List Output) :
    t.shape = [pictures, channels, h, w] → (0 < h * w → 0 < pictures ∧ 0 < channels) →
    Means (some (.single t :: rest)) (.ok ⟨w, h, t.firstPlane w h⟩)

theorem exists_means (answer : Option (List Output)) : ∃ v, Means answer v := by
  rcases answer with - | outputs
  · exact ⟨_, .noRun⟩
  rcases outputs with - | ⟨o, rest⟩
  · exact ⟨_, .noOutput⟩
  cases o with
  | other => exact ⟨_, .otherNumbers rest⟩
  | single t =>
    by_cases hrank : t.shape.length = 4
    · obtain ⟨pictures, channels, h, w, hshape⟩ := List.length_eq_four.1 hrank
      by_cases hplane : 0 < h * w ∧ (pictures = 0 ∨ channels = 0)
      · exact ⟨_, .noPlane rest hshape hplane.1 hplane.2⟩
      · exact ⟨_, .plane rest hshape fun hpos => by omega⟩
    · exact ⟨_, .otherRank rest hrank⟩

/-- An answer comes to one thing only. -/
theorem Means.unique {answer : Option (List Output)} {v v' : Except Failure Plane}
    (h : Means answer v) (h' : Means answer v') : v = v' := by
  cases h with
  | noRun => cases h'; rfl
  | noOutput => cases h'; rfl
  | otherNumbers rest => cases h'; rfl
  | otherRank rest hrank =>
    cases h' with
    | otherRank _ _ => rfl
    | noPlane _ hshape _ _ => exact absurd (congrArg List.length hshape) hrank
    | plane _ hshape _ => exact absurd (congrArg List.length hshape) hrank
  | noPlane rest hshape hpos hnone =>
    cases h' with
    | otherRank _ hrank => exact absurd (congrArg List.length hshape) hrank
    | noPlane _ _ _ _ => rfl
    | plane _ hshape' hplane =>
      obtain ⟨rfl, rfl, rfl, rfl⟩ := by simpa using hshape.symm.trans hshape'
      have := hplane hpos
      omega
  | plane rest hshape hplane =>
    cases h' with
    | otherRank _ hrank => exact absurd (congrArg List.length hshape) hrank
    | noPlane _ hshape' hpos hnone =>
      obtain ⟨rfl, rfl, rfl, rfl⟩ := by simpa using hshape.symm.trans hshape'
      have := hplane hpos
      omega
    | plane _ hshape' _ =>
      obtain ⟨rfl, rfl, rfl, rfl⟩ := by simpa using hshape.symm.trans hshape'
      rfl

/-- The scores that are read are those of the plane. -/
theorem take_eq_scores {t : Tensor} {pictures channels h w : Nat}
    (hshape : t.shape = [pictures, channels, h, w])
    (hplane : 0 < h * w → 0 < pictures ∧ 0 < channels) :
    t.values.toList.take (h * w) = t.firstPlane w h := by
  rcases Nat.eq_zero_or_pos (h * w) with hzero | hpos
  · have hempty : t.firstPlane w h = [] :=
      List.length_eq_zero_iff.1 ((t.length_firstPlane w h).trans hzero)
    rw [hzero, hempty, List.take_zero]
  · exact t.take_eq_firstPlane hshape (hplane hpos)

theorem matteOf_single {t : Tensor} {pictures channels h w : Nat}
    (hshape : t.shape = [pictures, channels, h, w]) :
    matteOf (.single t) = match Matte.ofScores (t.values.toList.take (h * w)) w h with
      | some m => .ok m
      | none => .error (.inference "Output tensor is smaller than its shape") := by
  obtain ⟨shape, values, hsize⟩ := t
  obtain rfl : shape = [pictures, channels, h, w] := hshape
  rfl

theorem matteOf_of_rank {t : Tensor} (hrank : t.shape.length ≠ 4) :
    matteOf (.single t) =
      .error (.inference ("Expected 4D output tensor, got shape " ++ Tensor.shapeText t.shape)) := by
  unfold matteOf
  dsimp only
  split
  · next hshape => exact absurd (congrArg List.length hshape) hrank
  · rfl

section Predict

variable {n : Network} {x : Tensor}

theorem predict_eq {o : Output} {rest : List Output} (hrun : n.run x = some (o :: rest)) :
    predict n x = matteOf o := by
  unfold predict
  rw [hrun]

/-- **An answer that comes to a failure fails.** -/
theorem Means.predict_error {answer : Option (List Output)} {e : Failure} (h : Means answer (.error e))
    (hrun : n.run x = answer) : predict n x = .error e := by
  cases h with
  | noRun =>
    unfold predict
    rw [hrun]
  | noOutput =>
    unfold predict
    rw [hrun]
  | otherNumbers rest => exact predict_eq hrun
  | otherRank rest hrank => exact (predict_eq hrun).trans (matteOf_of_rank hrank)
  | @noPlane t pictures channels h w rest hshape hpos hnone =>
    have hempty : t.values.size = 0 := by
      rw [t.size_values, hshape]
      rcases hnone with rfl | rfl <;> simp [volume]
    have hscores : Matte.ofScores (t.values.toList.take (h * w)) w h = none := by
      rw [Matte.ofScores_eq_none_iff, List.length_take, Array.length_toList, hempty, Nat.mul_comm w h]
      omega
    rw [predict_eq hrun, matteOf_single hshape, hscores]

/-- **An answer that comes to a plane gives the matte of its scores.** -/
theorem Means.predict_ok {answer : Option (List Output)} {p : Plane} (h : Means answer (.ok p))
    (hrun : n.run x = answer) :
    ∃ matte, Matte.ofScores p.scores p.width p.height = some matte ∧ predict n x = .ok matte := by
  cases h with
  | @plane t pictures channels h w rest hshape hplane =>
    have hlength : (t.firstPlane w h).length = w * h := by rw [Tensor.length_firstPlane, Nat.mul_comm]
    obtain ⟨matte, hmatte⟩ := Option.ne_none_iff_exists'.1
      (mt Matte.ofScores_eq_none_iff.1 (not_not.2 hlength))
    refine ⟨matte, hmatte, ?_⟩
    rw [predict_eq hrun, matteOf_single hshape, take_eq_scores hshape hplane, hmatte]

end Predict

/-! ## What is not looked at -/

/-- Two answers that differ at most in what is not looked at: in the outputs after the first one, or in
the pictures and channels after the first ones. -/
inductive Alike : Option (List Output) → Option (List Output) → Prop
  | outputs (o : Output) (rest rest' : List Output) : Alike (some (o :: rest)) (some (o :: rest'))
  | planes {t t' : Tensor} {pictures pictures' channels channels' h w : Nat}
    (rest rest' : List Output) :
    t.shape = [pictures, channels, h, w] → t'.shape = [pictures', channels', h, w] →
    0 < pictures ∧ 0 < channels → 0 < pictures' ∧ 0 < channels' →
    (∀ y < h, ∀ x < w, t.number [0, 0, y, x] = t'.number [0, 0, y, x]) →
    Alike (some (.single t :: rest)) (some (.single t' :: rest'))

theorem Alike.predict_eq {n n' : Network} {x : Tensor} (h : Alike (n.run x) (n'.run x)) :
    predict n x = predict n' x := by
  generalize hrun : n.run x = a, hrun' : n'.run x = a' at h
  cases h with
  | outputs o rest rest' => rw [Model.predict_eq hrun, Model.predict_eq hrun']
  | @planes t t' _ _ _ _ h w rest rest' hshape hshape' hplane hplane' heq =>
    obtain ⟨matte, hmatte, hok⟩ := (Means.plane rest hshape fun _ => hplane).predict_ok hrun
    obtain ⟨matte', hmatte', hok'⟩ := (Means.plane rest' hshape' fun _ => hplane').predict_ok hrun'
    dsimp only at hmatte hmatte'
    rw [Tensor.firstPlane_congr heq, hmatte', Option.some_inj] at hmatte
    rw [hok, hok', hmatte]

/-! ## Cutting out -/

variable {m : Model} {file : Bytes}

/-- A cutout depends on what is predicted for the picture in the file, and not on the network. -/
theorem cut_congr [FurtherReaders] {other : Network}
    (h : ∀ p, readUpright file = .ok p →
      predict m.network (inputTensor p m.inputSize) = predict other (inputTensor p m.inputSize)) :
    { m with network := other }.cut file = m.cut file := by
  unfold cut
  cases hp : readUpright file with
  | error f => rfl
  | ok p =>
    have hread : (Except.ok p : Except ImageFault Picture).mapError Failure.image = .ok p := rfl
    rw [hread]
    simp only [bind, Except.bind, h p hp]
    rfl

theorem isFlat_of_value_eq {lo hi : Float32} (h : Single.value hi = Single.value lo) :
    Matte.IsFlat lo hi := by
  by_contra hflat
  obtain ⟨l, l', hl, hl', -, hpos, -⟩ := Matte.exists_of_not_isFlat hflat
  rw [h, hl] at hl'
  cases hl'
  rw [sub_self, Single.nearest_zero] at hpos
  exact hpos.ne rfl

/-- A plane of one score is flat. -/
theorem Plane.isFlat_of_forall_eq {p : Plane} {v : Float32} (h : ∀ u ∈ p.scores, u = v) : p.IsFlat := by
  intro lo hi hlo hhi
  rw [h lo hlo.1, h hi hhi.1]
  exact isFlat_of_value_eq rfl

/-- A flat plane has a matte of nothing. -/
theorem Plane.IsFlat.eq_fill {p : Plane} {matte : Matte} (h : p.IsFlat)
    (hmatte : Matte.ofScores p.scores p.width p.height = some matte) :
    matte = Raster.fill p.width p.height 0 := by
  refine Matte.eq_fill_of_level hmatte fun v hv => ?_
  by_cases hnan : Single.value v = .nan
  · exact Matte.level_of_nan _ _ hnan
  · obtain ⟨lo, hi, hlo, hhi⟩ := Matte.exists_bounds hv hnan
    rw [Matte.level_bounds hlo hhi hv]
    exact Matte.level_of_isFlat (h lo hi hlo hhi) v

theorem fit_fill_zero (m : Model) (w h w' h' : Nat) :
    m.fit (Raster.fill w h 0) w' h' = Raster.fill w' h' 0 := by
  unfold fit
  rw [Raster.resize_fill_zero]
  dsimp only
  split
  · exact Matte.clean_fill_zero w' h'
  · rfl

/-- **A flat plane leaves nothing of a picture.** -/
theorem cut_of_isFlat [FurtherReaders] {p : Picture} {plane : Plane} (hp : readUpright file = .ok p)
    (hmeans : Means (m.network.run (inputTensor p m.inputSize)) (.ok plane)) (hflat : plane.IsFlat) :
    m.cut file = Container.png.encode (Raster.fill p.width p.height Rgba.clear) := by
  obtain ⟨matte, hmatte, hpredict⟩ := hmeans.predict_ok rfl
  obtain rfl := hflat.eq_fill hmatte
  obtain ⟨r, hr, hcut⟩ := cut_eq_encode hp hpredict
  rw [fit_fill_zero, Raster.cutBy?_fill_zero, Option.some_inj] at hr
  rw [hcut, ← hr, p.size_toRgba8.1, p.size_toRgba8.2]

/-- **A cutout shows the first plane of an answer.** Every answer comes to one thing. If this is a
failure, it is that of the prediction; if it is a plane, the prediction is the matte of its scores. The
cutout stays the same whatever is changed in further outputs, pictures and channels. If the plane is
flat, what is written is a picture of the upright size without anything in it; and it is written if it
has pixels. -/
theorem cut_reads_first_plane [FurtherReaders] (m : Model) (file : Bytes) :
    (∀ answer, ∃ v, Means answer v ∧ ∀ v', Means answer v' → v' = v) ∧
    (∀ (n : Network) x e, Means (n.run x) (.error e) → predict n x = .error e) ∧
    (∀ (n : Network) x p, Means (n.run x) (.ok p) → ∃ matte,
      Matte.ofScores p.scores p.width p.height = some matte ∧ predict n x = .ok matte) ∧
    (∀ other : Network,
      (∀ p, readUpright file = .ok p → Alike (m.network.run (inputTensor p m.inputSize))
        (other.run (inputTensor p m.inputSize))) →
      { m with network := other }.cut file = m.cut file) ∧
    ∀ p plane, readUpright file = .ok p →
      Means (m.network.run (inputTensor p m.inputSize)) (.ok plane) → plane.IsFlat →
      m.cut file = Container.png.encode (Raster.fill p.width p.height Rgba.clear) ∧
      (0 < p.width → 0 < p.height → ∃ b, m.cut file = .ok b ∧
        Png.decode b = .ok (.rgba8 (Raster.fill p.width p.height Rgba.clear))) := by
  refine ⟨fun answer => ?_, fun n x e h => h.predict_error rfl, fun n x p h => h.predict_ok rfl,
    fun other h => cut_congr fun p hp => (h p hp).predict_eq, fun p plane hp hmeans hflat => ?_⟩
  · obtain ⟨v, hv⟩ := exists_means answer
    exact ⟨v, hv, fun v' hv' => hv'.unique hv⟩
  · have hcut := cut_of_isFlat hp hmeans hflat
    refine ⟨hcut, fun hwidth hheight => ?_⟩
    obtain ⟨b, hb⟩ := Png.exists_encode (r := Raster.fill p.width p.height Rgba.clear) ⟨hwidth, hheight⟩
    have hsides := readUpright_hasSides file p hp
    exact ⟨b, hcut.trans (Container.encode_png_eq_ok.2 hb),
      Png.decode_encode ⟨hwidth, hheight, hsides.1, hsides.2⟩ hb⟩

/-- Two answers with the same flat plane, the one with a second channel and the other with a second
picture and a second output, leave nothing of a picture of two pixels. -/
theorem cut_reads_first_plane_flat :
    let old : Raster (Rgba UInt8) := Raster.fill 2 1 ⟨10, 20, 30, 255⟩
    let t : Tensor := ⟨[1, 2, 1, 2], #[3, 3, 1, 2], rfl⟩
    let t' : Tensor := ⟨[2, 1, 1, 2], #[3, 3, 7, 8], rfl⟩
    let m : Model := ⟨"u2net", 320, true, ⟨fun _ => some [.single t]⟩⟩
    let other : Network := ⟨fun _ => some [.single t', .other]⟩
    ∃ file b, Png.encode old = .ok file ∧ m.cut file = .ok b ∧
      { m with network := other }.cut file = .ok b ∧
      Png.decode b = .ok (.rgba8 (Raster.fill 2 1 Rgba.clear)) := by
  intro old t t' m other
  obtain ⟨file, hfile⟩ : ∃ file, Png.encode old = .ok file := ⟨_, rfl⟩
  have hread : readUpright file = .ok (.rgba8 old) := by
    rw [Png.readUpright_encode ⟨by decide, by decide, by decide, by decide⟩ hfile]
    exact if_neg (by decide)
  have halike : Alike (some [.single t]) (some [.single t', .other]) := by
    refine .planes (h := 1) (w := 2) [] [.other] rfl rfl (by decide) (by decide) ?_
    intro y hy x hx
    rw [Tensor.number_eq (t := t) rfl, Tensor.number_eq (t := t') rfl]
    obtain rfl : y = 0 := by omega
    obtain rfl | rfl : x = 0 ∨ x = 1 := by omega
    · simp [t, t', Tensor.entry]
    · simp [t, t', Tensor.entry]
  have hflat : Plane.IsFlat ⟨2, 1, t.firstPlane 2 1⟩ := by
    refine Plane.isFlat_of_forall_eq (v := 3) fun u hu => ?_
    have hscores : t.firstPlane 2 1 = [3, 3] := by
      rw [← t.take_eq_firstPlane rfl (by decide)]
      rfl
    rw [hscores] at hu
    simpa using hu
  obtain ⟨-, -, -, hsame, hempty⟩ := cut_reads_first_plane m file
  obtain ⟨b, hb, hdecode⟩ := (hempty (.rgba8 old) _ hread
    (.plane [] rfl fun _ => by decide) hflat).2 (by decide) (by decide)
  exact ⟨file, b, hfile, hb, (hsame other fun _ _ => halike).trans hb, hdecode⟩

end Model

end Cutout
