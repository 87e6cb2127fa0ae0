import Cutout.Network.Model
import Cutout.Proofs.Codec.Extent
import Cutout.Proofs.Codec.Png
import Cutout.Proofs.Matte.Apply

/-!
# What a model leaves of a picture

Whatever a network answers, the matte is brought to the size of the picture (`Model.sameSize_fit`), so
that it can always be applied, pixel by pixel (`Raster.get?_of_cutBy?`). A pixel is then either cleared
or keeps its colours (`Rgba.isCutOf_under`). Since the file that is written is read again as it was
(`Png.decode_encode`), this is what the result shows (`Model.cut_keeps`).
-/

namespace Cutout

/-! ## Mattes of the right size -/

namespace Matte

@[simp] theorem width_clean (m : Matte) : (clean m).width = m.width := rfl

@[simp] theorem height_clean (m : Matte) : (clean m).height = m.height := rfl

theorem decideLevel_eq (v : UInt8) : decideLevel v = 0 ∨ decideLevel v = 255 := by
  unfold decideLevel
  split
  · exact .inr rfl
  · exact .inl rfl

/-- A cleaned matte is binary. -/
theorem get?_clean {m : Matte} {x y : Nat} {a : UInt8} (h : (clean m).get? x y = some a) :
    a = 0 ∨ a = 255 := by
  unfold clean at h
  rw [Raster.get?_map, Option.map_eq_some_iff] at h
  obtain ⟨v, -, rfl⟩ := h
  exact decideLevel_eq v

end Matte

/-- The matte for a picture has its size, whatever the size of the answer was. -/
theorem Model.sameSize_fit (m : Model) (matte : Matte) (image : Raster (Rgba UInt8)) :
    image.SameSize (m.fit matte image.width image.height) := by
  have hwidth := Raster.width_resize matte image.width image.height
  have hheight := Raster.height_resize matte image.width image.height
  unfold Model.fit
  dsimp only
  split
  · exact ⟨hwidth.symm, hheight.symm⟩
  · exact ⟨hwidth.symm, hheight.symm⟩

theorem Model.get?_fit {m : Model} {matte : Matte} {w h x y : Nat} {a : UInt8}
    (hclean : m.cleanMatte = true) (hget : (m.fit matte w h).get? x y = some a) :
    a = 0 ∨ a = 255 := by
  unfold Model.fit at hget
  simp only [hclean, if_true] at hget
  exact Matte.get?_clean hget

/-! ## Cutting out -/

/-- A tensor with a picture and a channel has a plane. -/
theorem Tensor.le_size {t : Tensor} {pictures channels h w : Nat}
    (hshape : t.shape = [pictures, channels, h, w]) (hplane : 0 < pictures ∧ 0 < channels) :
    h * w ≤ t.values.size := by
  rw [t.size_values, hshape]
  show h * w ≤ pictures * (channels * (h * (w * 1)))
  rw [Nat.mul_one, ← Nat.mul_assoc]
  exact Nat.le_mul_of_pos_left _ (Nat.mul_pos hplane.1 hplane.2)

namespace Model

variable {m : Model} {file b : Bytes}

/-- The only failures of a network are its own. -/
theorem predict_error {n : Network} {x : Tensor} {e : Failure} (h : predict n x = .error e) :
    ∃ text, e = .inference text := by
  have hmatte : ∀ o, matteOf o = .error e → ∃ text, e = .inference text := by
    intro o ho
    unfold matteOf at ho
    repeat' split at ho
    all_goals first
      | exact ⟨_, (Except.error.inj ho).symm⟩
      | cases ho
  unfold predict at h
  split at h
  · exact ⟨_, (Except.error.inj h).symm⟩
  · exact ⟨_, (Except.error.inj h).symm⟩
  · exact hmatte _ h

/-- What a model makes of a picture, once the network has answered: the matte can always be
applied. -/
theorem cut_eq_encode [FurtherReaders] {p : Picture} {matte : Matte} (hp : readUpright file = .ok p)
    (hmatte : predict m.network (inputTensor p m.inputSize) = .ok matte) :
    ∃ r, p.toRgba8.cutBy? (m.fit matte p.toRgba8.width p.toRgba8.height) = some r ∧
      m.cut file = Container.png.encode r := by
  obtain ⟨r, hr⟩ := Raster.exists_cutBy? (m.sameSize_fit matte p.toRgba8)
  refine ⟨r, hr, ?_⟩
  have hread : (Except.ok p : Except ImageFault Picture).mapError Failure.image = .ok p := rfl
  unfold cut
  rw [hp, hread]
  simp only [bind, Except.bind, hmatte, hr]

/-- Every way to cut a picture: it cannot be read, the network fails, or the cutout is written. -/
theorem cut_cases [FurtherReaders] (m : Model) (file : Bytes) :
    (∃ f, m.cut file = .error (.image f)) ∨ (∃ text, m.cut file = .error (.inference text)) ∨
      ∃ p matte r, readUpright file = .ok p ∧
        p.toRgba8.cutBy? (m.fit matte p.toRgba8.width p.toRgba8.height) = some r ∧
        m.cut file = Container.png.encode r := by
  cases hp : readUpright file with
  | error f =>
    refine .inl ⟨f, ?_⟩
    unfold cut
    rw [hp]
    rfl
  | ok p =>
    cases hmatte : predict m.network (inputTensor p m.inputSize) with
    | error e =>
      obtain ⟨text, rfl⟩ := predict_error hmatte
      have hread : (Except.ok p : Except ImageFault Picture).mapError Failure.image = .ok p := rfl
      refine .inr (.inl ⟨text, ?_⟩)
      unfold cut
      rw [hp, hread]
      simp only [bind, Except.bind, hmatte]
    | ok matte =>
      obtain ⟨r, hr, hcut⟩ := cut_eq_encode hp hmatte
      exact .inr (.inr ⟨p, matte, r, rfl, hr, hcut⟩)

/-- A network that answers with at least one plane gives a matte, even if the plane is empty. -/
theorem exists_predict {n : Network} {x : Tensor} {t : Tensor} {outputs : List Output}
    {pictures channels h w : Nat} (hrun : n.run x = some (.single t :: outputs))
    (hshape : t.shape = [pictures, channels, h, w]) (hplane : 0 < pictures ∧ 0 < channels) :
    ∃ matte, predict n x = .ok matte := by
  have hvolume : h * w ≤ t.values.size := Tensor.le_size hshape hplane
  obtain ⟨matte, hmatte⟩ :
      ∃ matte, Matte.ofScores (t.values.toList.take (h * w)) w h = some matte := by
    refine ⟨_, dif_pos ?_⟩
    rw [Array.size_map, List.size_toArray, List.length_take, Array.length_toList,
      Nat.min_eq_left hvolume, Nat.mul_comm]
  refine ⟨matte, ?_⟩
  unfold predict matteOf
  simp only [hrun, hshape, hmatte]

/-- A picture with pixels is cut whenever the network gives a matte. -/
theorem exists_cut [FurtherReaders] {p : Picture} {matte : Matte} (hp : readUpright file = .ok p)
    (hpixels : 0 < p.width ∧ 0 < p.height)
    (hmatte : predict m.network (inputTensor p m.inputSize) = .ok matte) :
    ∃ b, m.cut file = .ok b := by
  obtain ⟨r, hr, hcut⟩ := cut_eq_encode hp hmatte
  obtain ⟨hwidth, hheight, -⟩ := Raster.get?_of_cutBy? hr
  rw [p.size_toRgba8.1] at hwidth
  rw [p.size_toRgba8.2] at hheight
  obtain ⟨b, hb⟩ := Png.exists_encode (r := r) (by rwa [hwidth, hheight])
  exact ⟨b, hcut.trans (Container.encode_png_eq_ok.2 hb)⟩

/-- The cutout of a file that is cut. -/
theorem cut_eq_ok [FurtherReaders] (h : m.cut file = .ok b) :
    ∃ p matte r, readUpright file = .ok p ∧
      p.toRgba8.cutBy? (m.fit matte p.toRgba8.width p.toRgba8.height) = some r ∧
        Png.encode r = .ok b ∧ Png.Fits r.width r.height := by
  rcases cut_cases m file with ⟨f, hcut⟩ | ⟨text, hcut⟩ | ⟨p, matte, r, hp, hr, hcut⟩
  · rw [hcut] at h
    cases h
  · rw [hcut] at h
    cases h
  · rw [hcut, Container.encode_png_eq_ok] at h
    obtain ⟨hwidth, hheight, -⟩ := Raster.get?_of_cutBy? hr
    rw [p.size_toRgba8.1] at hwidth
    rw [p.size_toRgba8.2] at hheight
    have hsides := readUpright_hasSides file p hp
    have hpos := Png.pos_of_encode h
    refine ⟨p, matte, r, hp, hr, h, hpos.1, hpos.2, ?_, ?_⟩
    · rw [hwidth]
      exact hsides.1
    · rw [hheight]
      exact hsides.2

/-- **A model takes away from a picture, and changes nothing else.** Whatever the network is and
answers: if a file comes of it, the picture in this file has the size of the upright picture, and each
of its pixels is cleared or has the colours of the pixel at the same place with an opacity that is not
0; if mattes are cleaned, the opacity is 0 or 255. The file is read again by the service as long as the
picture takes no more memory than it grants. A matte of the wrong size never occurs. -/
theorem cut_keeps [FurtherReaders] (m : Model) (file : Bytes) :
    (∀ b, m.cut file = .ok b →
        ∃ p r, readUpright file = .ok p ∧ Png.decode b = .ok (.rgba8 r) ∧
          (r.width * r.height * 4 ≤ memoryLimit → readStored b = .ok r) ∧
          r.width = p.width ∧ r.height = p.height ∧
          ∀ x y q, r.get? x y = some q → ∃ old, p.toRgba8.get? x y = some old ∧
            old.IsCutOf q ∧ (m.cleanMatte = true → q.alpha = 0 ∨ q.alpha = 255)) ∧
      m.cut file ≠ .error (.internal "Mask size does not match the input image") := by
  constructor
  · intro b h
    obtain ⟨p, matte, r, hp, hr, hb, hfits⟩ := cut_eq_ok h
    obtain ⟨hwidth, hheight, hpixels⟩ := Raster.get?_of_cutBy? hr
    refine ⟨p, r, hp, Png.decode_encode hfits hb, ?_, hwidth.trans p.size_toRgba8.1,
      hheight.trans p.size_toRgba8.2, ?_⟩
    · intro hsmall
      rw [Png.readStored_encode hfits hb, if_neg (Nat.not_lt.2 hsmall)]
    · intro x y q hq
      obtain ⟨old, a, hold, ha, rfl⟩ := hpixels x y q hq
      refine ⟨old, hold, old.isCutOf_under a, fun hclean => ?_⟩
      rw [Rgba.alpha_under]
      exact get?_fit hclean ha
  · rcases cut_cases m file with ⟨f, hcut⟩ | ⟨text, hcut⟩ | ⟨p, matte, r, hp, hr, hcut⟩
    · rw [hcut]
      exact fun h => nomatch h
    · rw [hcut]
      exact fun h => nomatch h
    · rw [hcut]
      unfold Container.encode
      cases Png.encode r with
      | error f => exact fun h => nomatch h
      | ok b => exact fun h => nomatch h

/-- A picture of two pixels is cut by a model that answers with an empty plane and cleans it. -/
theorem cut_keeps_two_pixels :
    let old : Raster (Rgba UInt8) :=
      Raster.ofFn 2 1 fun x _ => ⟨10, 20, 30, if x = 0 then 40 else 255⟩
    let m : Model := ⟨"u2net", 320, true, ⟨fun _ => some [.single ⟨[1, 1, 0, 0], #[], rfl⟩]⟩⟩
    ∃ file b r, Png.encode old = .ok file ∧ m.cut file = .ok b ∧ readStored b = .ok r ∧
      r.width = 2 ∧ r.height = 1 ∧ ∃ q, r.get? 1 0 = some q ∧ (q.alpha = 0 ∨ q.alpha = 255) := by
  intro old m
  obtain ⟨file, hfile⟩ : ∃ file, Png.encode old = .ok file := ⟨_, rfl⟩
  have hfits : Png.Fits old.width old.height := ⟨by decide, by decide, by decide, by decide⟩
  have hread : readUpright file = .ok (.rgba8 old) := by
    rw [Png.readUpright_encode hfits hfile]
    exact if_neg (by decide)
  obtain ⟨matte, hmatte⟩ : ∃ matte, predict m.network (inputTensor (.rgba8 old) m.inputSize) =
      .ok matte := exists_predict rfl rfl (by decide)
  obtain ⟨b, hb⟩ := exists_cut hread (by decide) hmatte
  obtain ⟨p, r, hp, -, hstored, hwidth, hheight, hpixels⟩ := (cut_keeps m file).1 b hb
  obtain rfl : Picture.rgba8 old = p := Except.ok.inj (hread.symm.trans hp)
  have hwidth : r.width = 2 := hwidth
  have hheight : r.height = 1 := hheight
  refine ⟨file, b, r, hfile, hb, hstored ?_, hwidth, hheight, ?_⟩
  · rw [hwidth, hheight]
    decide
  · have hin : 1 < r.width ∧ 0 < r.height := by omega
    obtain ⟨q, hq⟩ := Option.isSome_iff_exists.1 (Raster.isSome_get?.2 hin)
    obtain ⟨-, -, -, halpha⟩ := hpixels 1 0 q hq
    exact ⟨q, hq, halpha rfl⟩

end Model

end Cutout
