import Cutout.Proofs.Single.Arithmetic
import Mathlib.Order.WithBot

/-!
# The order of single-precision numbers

Numbers are compared by what they stand for (`lt_iff`, `le_iff`, `beq_iff`): the two zeros are equal, and
what is not a number compares with nothing. What is computed is the order of exponents, then of mantissas;
`compare_canonical` says that it is the same.
-/

namespace Cutout.Single

open Float.Model Float.Model.UnpackedFloat

/-! ## Exponents and mantissas -/

theorem compare_map {α β : Type} [LinearOrder α] [LinearOrder β] {f : α → β} (hf : StrictMono f) (a b : α) :
    compare (f a) (f b) = compare a b := by
  rw [← cmp_eq_compare, ← cmp_eq_compare, hf.cmp_map_eq]

/-- Of numbers as they are stored, one with a larger exponent is larger. -/
theorem lt_of_exponent_lt {m n : ℕ} {e f : ℤ} (hm : IsCanonical m e) (hn : IsCanonical n f) (h : e < f) :
    (m : ℚ) * 2 ^ e < n * 2 ^ f := by
  have hlow := hm.2.1
  calc (m : ℚ) * 2 ^ e < 2 ^ (e + 24) := hm.lt
    _ ≤ 2 ^ (f + 23) := two_zpow_le (by omega)
    _ ≤ n * 2 ^ f := hn.le (by omega)

theorem compare_canonical {m n : ℕ} {e f : ℤ} (hm : IsCanonical m e) (hn : IsCanonical n f) :
    (compare e f).then (compare m n) = compare ((m : ℚ) * 2 ^ e) (n * 2 ^ f) := by
  rcases lt_trichotomy e f with hlt | rfl | hgt
  · rw [compare_lt_iff_lt.2 hlt, compare_lt_iff_lt.2 (lt_of_exponent_lt hm hn hlt)]
    rfl
  · have hmono : StrictMono fun k : ℕ => (k : ℚ) * 2 ^ e := fun j k hjk =>
      mul_lt_mul_of_pos_right (by exact_mod_cast hjk) (two_zpow_pos e)
    rw [compare_eq_iff_eq.2 rfl]
    exact (compare_map hmono m n).symm
  · rw [compare_gt_iff_gt.2 hgt, compare_gt_iff_gt.2 (lt_of_exponent_lt hn hm hgt)]
    rfl

theorem swap_compare (p q : ℚ) : (compare p q).swap = compare (-p) (-q) := by
  have hanti : StrictAnti fun r : ℚ => -r := fun _ _ => neg_lt_neg
  rw [← cmp_eq_compare, ← cmp_eq_compare, cmp_swap]
  exact (hanti.cmp_map_eq p q).symm

/-! ## Positions -/

/-- Where a value stands among the others. -/
def Value.position : Value → WithBot (WithTop ℚ)
  | .nan => ⊥
  | .infinite .negative => ⊥
  | .infinite .positive => ((⊤ : WithTop ℚ) : WithBot (WithTop ℚ))
  | .number q => ((q : WithTop ℚ) : WithBot (WithTop ℚ))

theorem position_number_lt {p q : ℚ} : (Value.number p).position < (Value.number q).position ↔ p < q := by
  simp [Value.position]

theorem position_number_le {p q : ℚ} : (Value.number p).position ≤ (Value.number q).position ↔ p ≤ q := by
  simp [Value.position]

theorem compare_position (p q : ℚ) :
    compare p q = compare (Value.number p).position (Value.number q).position := by
  have hmono : StrictMono fun r => (Value.number r).position := fun _ _ => position_number_lt.2
  exact (compare_map hmono p q).symm

theorem compare_of_number {u v : UnpackedFloat} {p q : ℚ} (hu : Fits u) (hv : Fits v)
    (hp : Value.ofUnpacked u = .number p) (hq : Value.ofUnpacked v = .number q) :
    UnpackedFloat.compare u v = some (compare p q) := by
  have hpos : ∀ (n : ℕ) (f : ℤ), 0 < n → (0 : ℚ) < n * 2 ^ f := fun n f hn =>
    mul_pos (by exact_mod_cast hn) (two_zpow_pos f)
  -- the signs decide, unless they are the same: then it is up to the magnitudes
  cases u with
  | notANumber => cases hp
  | infinity s => cases hp
  | zero s =>
    cases hp
    cases v with
    | notANumber => cases hq
    | infinity t => cases hq
    | zero t =>
      cases hq
      exact congrArg some (compare_eq_iff_eq.2 rfl).symm
    | finite t n f hn =>
      cases hq
      cases t
      · exact congrArg some (compare_gt_iff_gt.2 (neg_lt_zero.2 (hpos n f hn))).symm
      · exact congrArg some (compare_lt_iff_lt.2 (hpos n f hn)).symm
  | finite s m e hm =>
    cases hp
    cases v with
    | notANumber => cases hq
    | infinity t => cases hq
    | zero t =>
      cases hq
      cases s
      · exact congrArg some (compare_lt_iff_lt.2 (neg_lt_zero.2 (hpos m e hm))).symm
      · exact congrArg some (compare_gt_iff_gt.2 (hpos m e hm)).symm
    | finite t n f hn =>
      cases hq
      cases s <;> cases t
      case negative.negative =>
        show some ((compare e f).then (compare m n)).swap = some (compare (-_) (-_))
        rw [compare_canonical hu.1 hv.1, swap_compare]
      case negative.positive =>
        have : -((m : ℚ) * 2 ^ e) < n * 2 ^ f := (neg_lt_zero.2 (hpos m e hm)).trans (hpos n f hn)
        exact congrArg some (compare_lt_iff_lt.2 this).symm
      case positive.negative =>
        have : -((n : ℚ) * 2 ^ f) < m * 2 ^ e := (neg_lt_zero.2 (hpos n f hn)).trans (hpos m e hm)
        exact congrArg some (compare_gt_iff_gt.2 this).symm
      case positive.positive =>
        exact congrArg some (compare_canonical hu.1 hv.1)

/-- **What is a number is compared by its position.** -/
theorem compare_eq {u v : UnpackedFloat} (hu : Fits u) (hv : Fits v)
    (hx : Value.ofUnpacked u ≠ .nan) (hy : Value.ofUnpacked v ≠ .nan) :
    UnpackedFloat.compare u v =
      some (compare (Value.ofUnpacked u).position (Value.ofUnpacked v).position) := by
  have hbot : ∀ q : ℚ, (⊥ : WithBot (WithTop ℚ)) < (Value.number q).position := fun q =>
    WithBot.bot_lt_coe _
  have htop : ∀ q : ℚ, (Value.number q).position < ((⊤ : WithTop ℚ) : WithBot (WithTop ℚ)) := fun q =>
    WithBot.coe_lt_coe.2 (WithTop.coe_lt_top q)
  cases u with
  | notANumber => exact absurd rfl hx
  | infinity s =>
    cases v with
    | notANumber => exact absurd rfl hy
    | infinity t =>
      cases s <;> cases t
      case negative.positive => exact congrArg some (compare_lt_iff_lt.2 (WithBot.bot_lt_coe _)).symm
      case positive.negative => exact congrArg some (compare_gt_iff_gt.2 (WithBot.bot_lt_coe _)).symm
      all_goals exact congrArg some (compare_eq_iff_eq.2 rfl).symm
    | _ =>
      cases s
      · exact congrArg some (compare_lt_iff_lt.2 (hbot _)).symm
      · exact congrArg some (compare_gt_iff_gt.2 (htop _)).symm
  | _ =>
    cases v with
    | notANumber => exact absurd rfl hy
    | infinity t =>
      cases t
      · exact congrArg some (compare_gt_iff_gt.2 (hbot _)).symm
      · exact congrArg some (compare_lt_iff_lt.2 (htop _)).symm
    | _ => exact (compare_of_number hu hv rfl rfl).trans (congrArg some (compare_position _ _))

theorem compare_of_nan {u v : UnpackedFloat} (h : Value.ofUnpacked u = .nan ∨ Value.ofUnpacked v = .nan) :
    UnpackedFloat.compare u v = none := by
  rcases h with h | h
  · rw [Value.ofUnpacked_eq_nan.1 h]
    cases v <;> rfl
  · rw [Value.ofUnpacked_eq_nan.1 h]
    cases u <;> rfl

/-! ## Comparisons -/

variable {a b : Float32}

/-- A comparison has an answer between two numbers, and only then. -/
theorem compare_toModel (a b : Float32) :
    (value a ≠ .nan ∧ value b ≠ .nan) ∧ UnpackedFloat.compare a.toModel.unpack b.toModel.unpack =
        some (compare (value a).position (value b).position) ∨
      ¬(value a ≠ .nan ∧ value b ≠ .nan) ∧
        UnpackedFloat.compare a.toModel.unpack b.toModel.unpack = none := by
  by_cases h : value a ≠ .nan ∧ value b ≠ .nan
  · exact .inl ⟨h, compare_eq (fits_toModel a) (fits_toModel b) h.1 h.2⟩
  · refine .inr ⟨h, compare_of_nan ?_⟩
    rwa [not_and_or, not_not, not_not] at h

theorem lt_iff :
    a < b ↔ value a ≠ .nan ∧ value b ≠ .nan ∧ (value a).position < (value b).position := by
  show decide (a.toModel < b.toModel) = true ↔ _
  rw [decide_eq_true_iff]
  show (UnpackedFloat.compare a.toModel.unpack b.toModel.unpack == some .lt) = true ↔ _
  rw [beq_iff_eq, ← and_assoc]
  rcases compare_toModel a b with ⟨h, hcompare⟩ | ⟨h, hcompare⟩
  · rw [hcompare, Option.some_inj, compare_lt_iff_lt, and_iff_right h]
  · rw [hcompare]
    exact iff_of_false nofun fun hlt => h hlt.1

theorem le_iff :
    a ≤ b ↔ value a ≠ .nan ∧ value b ≠ .nan ∧ (value a).position ≤ (value b).position := by
  show decide (a.toModel ≤ b.toModel) = true ↔ _
  rw [decide_eq_true_iff]
  show (UnpackedFloat.compare a.toModel.unpack b.toModel.unpack).any (·.isLE) = true ↔ _
  rw [← and_assoc]
  rcases compare_toModel a b with ⟨h, hcompare⟩ | ⟨h, hcompare⟩
  · rw [hcompare, and_iff_right h, Option.any_some, Ordering.isLE_iff_ne_gt, compare_gt_iff_gt,
      not_lt]
  · rw [hcompare]
    exact iff_of_false nofun fun hle => h hle.1

theorem beq_iff :
    (a == b) = true ↔ value a ≠ .nan ∧ value b ≠ .nan ∧ (value a).position = (value b).position := by
  show (UnpackedFloat.compare a.toModel.unpack b.toModel.unpack == some .eq) = true ↔ _
  rw [beq_iff_eq, ← and_assoc]
  rcases compare_toModel a b with ⟨h, hcompare⟩ | ⟨h, hcompare⟩
  · rw [hcompare, Option.some_inj, compare_eq_iff_eq, and_iff_right h]
  · rw [hcompare]
    exact iff_of_false nofun fun heq => h heq.1

theorem lt_iff_of_number {p q : ℚ} (hp : value a = .number p) (hq : value b = .number q) :
    a < b ↔ p < q := by
  rw [lt_iff, hp, hq, position_number_lt]
  exact ⟨fun h => h.2.2, fun h => ⟨nofun, nofun, h⟩⟩

theorem le_iff_of_number {p q : ℚ} (hp : value a = .number p) (hq : value b = .number q) :
    a ≤ b ↔ p ≤ q := by
  rw [le_iff, hp, hq, position_number_le]
  exact ⟨fun h => h.2.2, fun h => ⟨nofun, nofun, h⟩⟩

/-- Between two numbers there are only numbers. -/
theorem Value.exists_number {x : Value} {p r : ℚ} (hx : x ≠ .nan)
    (hp : (Value.number p).position ≤ x.position) (hr : x.position ≤ (Value.number r).position) :
    ∃ q, x = .number q ∧ p ≤ q ∧ q ≤ r := by
  cases x with
  | nan => exact absurd rfl hx
  | infinite s =>
    cases s
    · exact absurd hp (WithBot.bot_lt_coe _).not_ge
    · exact absurd hr (WithBot.coe_lt_coe.2 (WithTop.coe_lt_top _)).not_ge
  | number q => exact ⟨q, rfl, position_number_le.1 hp, position_number_le.1 hr⟩

theorem exists_value_of_le {x : Float32} {p r : ℚ} (hp : value a = .number p) (hr : value b = .number r)
    (hlow : a ≤ x) (hhigh : x ≤ b) : ∃ q, value x = .number q ∧ p ≤ q ∧ q ≤ r := by
  obtain ⟨-, hnan, hlow⟩ := le_iff.1 hlow
  obtain ⟨-, -, hhigh⟩ := le_iff.1 hhigh
  rw [hp] at hlow
  rw [hr] at hhigh
  exact Value.exists_number hnan hlow hhigh

theorem position_injective {x y : Value} (hx : x ≠ .nan) (hy : y ≠ .nan) (h : x.position = y.position) :
    x = y := by
  cases x with
  | nan => exact absurd rfl hx
  | infinite s =>
    cases y with
    | nan => exact absurd rfl hy
    | infinite t => cases s <;> cases t <;> first | rfl | cases h
    | number q => cases s <;> cases h
  | number p =>
    cases y with
    | nan => exact absurd rfl hy
    | infinite t => cases t <;> cases h
    | number q => exact congrArg Value.number (WithTop.coe_injective (WithBot.coe_injective h))

/-! ## Kinds of numbers -/

theorem isNaN_iff : a.isNaN = true ↔ value a = .nan := by
  show a.toModel.unpack.isNaN = true ↔ Value.ofUnpacked a.toModel.unpack = .nan
  cases a.toModel.unpack <;> simp [UnpackedFloat.isNaN, Value.ofUnpacked]

theorem isFinite_iff : a.isFinite = true ↔ ∃ q, value a = .number q := by
  show a.toModel.unpack.isFinite = true ↔ ∃ q, Value.ofUnpacked a.toModel.unpack = .number q
  cases a.toModel.unpack <;> simp [UnpackedFloat.isFinite, Value.ofUnpacked]

theorem isInf_iff : a.isInf = true ↔ ∃ s, value a = .infinite s := by
  show a.toModel.unpack.isInf = true ↔ ∃ s, Value.ofUnpacked a.toModel.unpack = .infinite s
  cases a.toModel.unpack <;> simp [UnpackedFloat.isInf, Value.ofUnpacked]

/-! ## Bytes -/

theorem value_toFloat32 (n : UInt8) : value n.toFloat32 = .number n.toNat := by
  show Value.packed (UnpackedFloat.normalize Format.binary32 (n.toNat : ℤ) 0 .positive) = _
  have hsingle : IsSingle (n.toNat : ℚ) := isSingle_natCast (n.toNat_lt.trans (by norm_num))
  rw [packed_normalize, zpow_zero, mul_one, Int.cast_natCast, hsingle.rounded_eq]

/-- The whole part of a magnitude is taken by shifting. -/
theorem roundToInt_eq (s : Sign) (m : ℕ) (e : ℤ) :
    roundToInt s m e = s.apply ⌊(m : ℚ) * 2 ^ e⌋ := by
  have hvalue := decreaseExponent_value m e 0
  -- digits behind the point come from a negative exponent, and are shifted out
  unfold roundToInt
  generalize hd : decreaseExponent m e 0 = d at hvalue
  obtain ⟨n, f⟩ := d
  have hf : f ≤ 0 := by
    have := congrArg Prod.snd hd
    simp only [decreaseExponent] at this
    omega
  have hshift := (standsFor_exact n).shiftRight (0 - f).toNat
  have hexact : (n : ℚ) / 2 ^ (0 - f).toNat = m * 2 ^ e := by
    rw [← hvalue, div_eq_mul_inv, ← zpow_natCast, ← zpow_neg]
    congr 2
    omega
  rw [hexact] at hshift
  rw [hshift.floor_eq]
  rfl

theorem toNat_ofNatClamp (n : ℕ) : (UInt8.ofNatClamp n).toNat = min n 255 := by
  unfold UInt8.ofNatClamp
  split
  · next h =>
    have : n ≤ 255 := Nat.le_of_lt_succ h
    rw [min_eq_left this]
    rfl
  · next h =>
    have : 255 ≤ n := (not_lt.1 h).trans' (by decide)
    rw [min_eq_right this]
    rfl

/-- **Conversion to a byte takes the whole part**, within the bounds of a byte. -/
theorem toNat_toUInt8 {q : ℚ} (h : value a = .number q) : a.toUInt8.toNat = min ⌊q⌋.toNat 255 := by
  show (UInt8.ofNatClamp (UnpackedFloat.toInt 0 255 a.toModel.unpack).toNat).toNat = _
  rw [toNat_ofNatClamp]
  unfold value at h
  generalize a.toModel.unpack = u at h
  cases u with
  | notANumber => cases h
  | infinity s => cases h
  | zero s =>
    cases h
    rfl
  | finite s m e hm =>
    cases h
    show min (roundToInt s m e).toNat 255 = _
    rw [roundToInt_eq]
    cases s with
    | positive => rfl
    | negative =>
      have hnonneg : (0 : ℚ) ≤ m * 2 ^ e := mul_nonneg m.cast_nonneg (two_zpow_pos e).le
      have hfloor : ⌊signed .negative ((m : ℚ) * 2 ^ e)⌋ ≤ 0 :=
        Int.floor_nonpos (neg_nonpos.2 hnonneg)
      rw [Int.toNat_of_nonpos hfloor, Int.toNat_of_nonpos]
      exact neg_nonpos.2 (Int.floor_nonneg.2 hnonneg)

theorem toUInt8_of_nan (h : value a = .nan) : a.toUInt8 = 0 := by
  show UnpackedFloat.toUInt8 a.toModel.unpack = 0
  rw [Value.ofUnpacked_eq_nan.1 h]
  rfl

end Cutout.Single
