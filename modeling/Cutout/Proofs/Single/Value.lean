import Cutout.Proofs.Single.Rounding

/-!
# Values of single-precision numbers

A single-precision number is kept as a pattern of bits. `value` says what it stands for; the two zeros
stand for the same. A result is packed into such a pattern again: this keeps it (`unpack_pack`), unless it
is too large and becomes infinite, so that a rounded result stands for `Value.rounded` of the exact one
(`packed_of_isRounding`).
-/

namespace Cutout.Single

open Float.Model Float.Model.UnpackedFloat

/-! ## Values -/

/-- What a single-precision number stands for. -/
inductive Value where
  | nan
  | infinite (s : Sign)
  | number (q : ℚ)

/-- A magnitude with its sign. -/
def signed : Sign → ℚ → ℚ
  | .positive, q => q
  | .negative, q => -q

/-- What an unpacked number stands for. -/
def Value.ofUnpacked : UnpackedFloat → Value
  | .notANumber => .nan
  | .infinity s => .infinite s
  | .zero _ => .number 0
  | .finite s m e _ => .number (signed s (m * 2 ^ e))

theorem Value.ofUnpacked_eq_nan {u : UnpackedFloat} : Value.ofUnpacked u = .nan ↔ u = .notANumber := by
  constructor
  · intro h
    cases u with
    | notANumber => rfl
    | _ => cases h
  · rintro rfl
    rfl

/-- What a number stands for. -/
def value (x : Float32) : Value :=
  .ofUnpacked x.toModel.unpack

/-- What is left of an exact result: the nearest number, if it is not too large. -/
def Value.rounded (q : ℚ) : Value :=
  if 2 ^ 128 ≤ nearest q then .infinite .positive
  else if nearest q ≤ -2 ^ 128 then .infinite .negative
  else .number (nearest q)

theorem Value.rounded_eq_number {q : ℚ} (h : |nearest q| < 2 ^ 128) :
    Value.rounded q = .number (nearest q) := by
  rw [abs_lt] at h
  rw [rounded, if_neg h.2.not_ge, if_neg h.1.not_ge]

theorem Value.rounded_of_nonneg {q : ℚ} (h : 0 ≤ nearest q) (hlt : nearest q < 2 ^ 128) :
    Value.rounded q = .number (nearest q) :=
  rounded_eq_number (by rwa [abs_of_nonneg h])

theorem Value.rounded_eq_number_iff {q r : ℚ} :
    Value.rounded q = .number r ↔ |nearest q| < 2 ^ 128 ∧ nearest q = r := by
  constructor
  · intro h
    unfold rounded at h
    split at h
    · cases h
    · next hhigh =>
      split at h
      · cases h
      · next hlow =>
        cases h
        exact ⟨abs_lt.2 ⟨not_le.1 hlow, not_le.1 hhigh⟩, rfl⟩
  · rintro ⟨hlt, rfl⟩
    exact rounded_eq_number hlt

theorem signed_nearest (s : Sign) (q : ℚ) : nearest (signed s q) = signed s (nearest q) := by
  cases s
  · exact nearest_neg q
  · rfl

theorem abs_signed (s : Sign) (q : ℚ) : |signed s q| = |q| := by
  cases s
  · exact abs_neg q
  · rfl

theorem signed_mul (s : Sign) (n : ℕ) (q : ℚ) : signed s (n * q) = (s.apply n : ℤ) * q := by
  cases s <;> simp [signed, Sign.apply]

/-! ## Packing -/

/-- An unpacked number that fits into a pattern of bits. -/
def Fits : UnpackedFloat → Prop
  | .finite _ m e _ => IsCanonical m e ∧ e ≤ 104
  | _ => True

theorem ofBitVec_toBitVec (s : Sign) : Sign.ofBitVec s.toBitVec = s := by
  cases s <;> rfl

theorem unpackSign_packComponents (s : Sign) (e : BitVec 8) (m : BitVec 23) :
    unpackSign (packComponents Format.binary32 s e m) = s.toBitVec := by
  simp only [unpackSign, packComponents, BitVec.extractLsb]
  rw [BitVec.extractLsb'_append_eq_of_le (by decide), BitVec.extractLsb'_append_eq_of_le (by decide)]
  cases s <;> rfl

/-- The leading digit of a mantissa is not stored, and comes back in front of the others. -/
theorem toNat_leading_append (m : BitVec 23) : (1#1 ++ m).toNat = 2 ^ 23 + m.toNat := by
  rw [BitVec.toNat_append, ← Nat.shiftLeft_add_eq_or_of_lt m.isLt]
  rfl

theorem unpack_normal (s : Sign) {e : BitVec 8} (m : BitVec 23) (hzero : e ≠ 0#8) (hones : e ≠ -1#8) :
    ∃ h, UnpackedFloat.unpack Format.binary32 (packComponents Format.binary32 s e m) =
      .finite s (2 ^ 23 + m.toNat) (e.toNat - 150) h := by
  refine ⟨by omega, ?_⟩
  simp only [UnpackedFloat.unpack, unpackMantissa_packComponents, unpackExponent_packComponents,
    unpackSign_packComponents, ofBitVec_toBitVec, if_neg hzero, if_neg hones]
  simp only [toNat_leading_append]
  rfl

theorem unpack_subnormal (s : Sign) {m : BitVec 23} (hm : m ≠ 0#23) :
    ∃ h, UnpackedFloat.unpack Format.binary32 (packComponents Format.binary32 s 0#8 m) =
      .finite s m.toNat (-149) h := by
  refine ⟨Nat.pos_of_ne_zero fun h => hm (BitVec.eq_of_toNat_eq h), ?_⟩
  have hones : (0#8 : BitVec 8) ≠ -1#8 := by decide
  simp only [UnpackedFloat.unpack, unpackMantissa_packComponents, unpackExponent_packComponents,
    unpackSign_packComponents, ofBitVec_toBitVec, if_neg hones, if_true, dif_neg hm]
  rfl

theorem pack_finite (s : Sign) (m : ℕ) (e : ℤ) (hm : 0 < m) :
    UnpackedFloat.pack Format.binary32 (.finite s m e hm) =
      if 2 ^ 8 ≤ (e + 127 + 23).toNat + 1 then packedInfinity Format.binary32 s
      else if m.log2 + 1 = 24 then packComponents Format.binary32 s
        (BitVec.ofNat 8 (e + 127 + 23).toNat) (BitVec.ofNat 23 m)
      else packComponents Format.binary32 s 0#8 (BitVec.ofNat 23 m) :=
  rfl

/-- What fits into a pattern of bits is read from it again. -/
theorem unpack_pack {u : UnpackedFloat} (h : Fits u) :
    UnpackedFloat.unpack Format.binary32 (UnpackedFloat.pack Format.binary32 u) = u := by
  cases u with
  | notANumber => rfl
  | infinity s => cases s <;> rfl
  | zero s => cases s <;> rfl
  | finite s m e hm =>
    obtain ⟨⟨hlt, hlow, hfull⟩, hhigh⟩ := h
    rw [pack_finite, if_neg (by omega)]
    -- a leading digit is dropped if there is one; the exponent 0 says that there is none
    by_cases hnormal : 2 ^ 23 ≤ m
    · have hlog : m.log2 = 23 := (Nat.log2_eq_iff hm.ne').2 ⟨hnormal, hlt⟩
      have hexponent : (BitVec.ofNat 8 (e + 127 + 23).toNat).toNat = (e + 127 + 23).toNat :=
        Nat.mod_eq_of_lt (by omega)
      have hmantissa : (BitVec.ofNat 23 m).toNat = m - 2 ^ 23 := by
        rw [BitVec.toNat_ofNat]
        omega
      rw [if_pos (by rw [hlog])]
      generalize BitVec.ofNat 8 (e + 127 + 23).toNat = field at hexponent
      obtain ⟨_, hunpack⟩ := unpack_normal s (BitVec.ofNat 23 m)
        (e := field) (by rintro rfl; simp at hexponent; omega) (by rintro rfl; simp at hexponent; omega)
      rw [hunpack]
      congr 1
      · omega
      · omega
    · have hmantissa : (BitVec.ofNat 23 m).toNat = m := Nat.mod_eq_of_lt (not_le.1 hnormal)
      have hlog : m.log2 < 23 := (Nat.log2_lt hm.ne').2 (not_le.1 hnormal)
      rw [if_neg (by omega)]
      generalize BitVec.ofNat 23 m = field at hmantissa
      obtain ⟨_, hunpack⟩ := unpack_subnormal s (m := field) (by rintro rfl; simp at hmantissa; omega)
      rw [hunpack]
      congr 1
      omega

/-- What is too large becomes infinite. -/
theorem pack_large (s : Sign) {m : ℕ} {e : ℤ} (hm : 0 < m) (h : 105 ≤ e) :
    UnpackedFloat.pack Format.binary32 (.finite s m e hm) =
      UnpackedFloat.pack Format.binary32 (.infinity s) := by
  rw [pack_finite, if_pos (by omega)]
  rfl

/-- What is read from a pattern of bits fits into one. -/
theorem fits_unpack (b : BitVec 32) : Fits (UnpackedFloat.unpack Format.binary32 b) := by
  have hbias : (Format.binary32.exponentBias : ℤ) = 127 := rfl
  have hmlt : (@unpackMantissa Format.binary32 b).toNat < 2 ^ 23 := BitVec.isLt _
  have helt : (@unpackExponent Format.binary32 b).toNat < 2 ^ 8 := BitVec.isLt _
  unfold UnpackedFloat.unpack
  dsimp only
  rw [hbias]
  split
  · split <;> trivial
  · next hones =>
    split
    · next hzero =>
      split
      · trivial
      · rw [hzero]
        exact ⟨⟨by omega, by simp, .inr (by simp)⟩, by simp⟩
    · next hzero =>
      have hpos : (@unpackExponent Format.binary32 b).toNat ≠ 0 := fun h =>
        hzero (BitVec.eq_of_toNat_eq h)
      have hmax : (@unpackExponent Format.binary32 b).toNat ≠ 255 := fun h =>
        hones (BitVec.eq_of_toNat_eq h)
      show IsCanonical (1#1 ++ @unpackMantissa Format.binary32 b).toNat _ ∧ _ ≤ _
      rw [toNat_leading_append]
      exact ⟨⟨by omega, by omega, .inl (by omega)⟩, by omega⟩

/-! ## Results -/

/-- What an unpacked number stands for after it has been packed. -/
def Value.packed (u : UnpackedFloat) : Value :=
  .ofUnpacked (UnpackedFloat.unpack Format.binary32 (UnpackedFloat.pack Format.binary32 u))

theorem packed_of_fits {u : UnpackedFloat} (h : Fits u) : Value.packed u = .ofUnpacked u :=
  congrArg Value.ofUnpacked (unpack_pack h)

theorem IsCanonical.lt {m : ℕ} {e : ℤ} (h : IsCanonical m e) : (m : ℚ) * 2 ^ e < 2 ^ (e + 24) := by
  have hm : (m : ℚ) < ((2 ^ 24 : ℤ) : ℚ) := by exact_mod_cast h.1
  calc (m : ℚ) * 2 ^ e < ((2 ^ 24 : ℤ) : ℚ) * 2 ^ e := mul_lt_mul_of_pos_right hm (two_zpow_pos e)
    _ = 2 ^ (e + 24) := (two_zpow_add e 24).symm

theorem IsCanonical.le {m : ℕ} {e : ℤ} (h : IsCanonical m e) (he : e ≠ -149) :
    2 ^ (e + 23) ≤ (m : ℚ) * 2 ^ e := by
  have hm : ((2 ^ 23 : ℤ) : ℚ) ≤ m := by exact_mod_cast h.2.2.resolve_right he
  calc (2 : ℚ) ^ (e + 23) = ((2 ^ 23 : ℤ) : ℚ) * 2 ^ e := two_zpow_add e 23
    _ ≤ m * 2 ^ e := mul_le_mul_of_nonneg_right hm (two_zpow_pos e).le

theorem two_pow_eq_zpow : (2 : ℚ) ^ 128 = 2 ^ (128 : ℤ) := by
  norm_num

theorem IsCanonical.lt_two_pow {m : ℕ} {e : ℤ} (h : IsCanonical m e) (he : e ≤ 104) :
    (m : ℚ) * 2 ^ e < 2 ^ 128 := by
  rw [two_pow_eq_zpow]
  exact h.lt.trans_le (two_zpow_le (by omega))

theorem Value.rounded_eq_infinite {s : Sign} {q : ℚ} (h : 2 ^ 128 ≤ nearest q) :
    Value.rounded (signed s q) = .infinite s := by
  unfold Value.rounded
  cases s with
  | positive => exact if_pos h
  | negative =>
    have hneg : nearest (signed .negative q) ≤ -2 ^ 128 := by
      rw [signed_nearest]
      exact neg_le_neg h
    rw [if_neg (by linarith), if_pos hneg]

/-- **A rounded result stands for what is left of the exact one.** -/
theorem packed_of_isRounding {s : Sign} {q : ℚ} {u : UnpackedFloat} (h : IsRounding s q u) :
    Value.packed u = Value.rounded (signed s q) := by
  cases h with
  | zero h =>
    have hzero : nearest (signed s q) = 0 := by
      rw [signed_nearest, h]
      cases s <;> simp [signed]
    rw [packed_of_fits (u := .zero s) trivial, Value.rounded_eq_number (by rw [hzero]; norm_num), hzero]
    rfl
  | @finite m e hm hcanonical h =>
    rcases le_or_gt e 104 with he | he
    · have hlt : |nearest (signed s q)| < 2 ^ 128 := by
        rw [signed_nearest, h, abs_signed, abs_of_nonneg (mul_nonneg m.cast_nonneg (two_zpow_pos e).le)]
        exact hcanonical.lt_two_pow he
      rw [packed_of_fits (u := .finite s m e hm) ⟨hcanonical, he⟩, Value.rounded_eq_number hlt,
        signed_nearest, h]
      rfl
    · have hlarge : (2 : ℚ) ^ 128 ≤ m * 2 ^ e := by
        rw [two_pow_eq_zpow]
        exact (two_zpow_le (by omega)).trans (hcanonical.le (by omega))
      rw [Value.packed, pack_large s hm he, Value.rounded_eq_infinite (h ▸ hlarge)]
      exact packed_of_fits (u := .infinity s) trivial

end Cutout.Single
