import Cutout.Text.Lower
import Mathlib.Data.List.Basic
import Mathlib.Tactic.Cases

/-!
# Lowercase and ASCII

In the whole of Unicode there is one character outside ASCII whose lowercase is in it, the Kelvin sign,
and one whose lowercase begins there, the capital I with a dot. So a text without `k` and `i` is the
lowercase of another one exactly if it is so by ASCII letters alone (`lowercase_eq_iff`). No lowercase
is lowered any further (`lowercase_lowercase`).
-/

namespace Cutout.Text

/-- The character is in ASCII, and no character outside of it is lowered to it. -/
def IsLowerOfAscii (c : Char) : Prop :=
  c.toNat < 0x80 ∧ c ≠ 'i' ∧ c ≠ 'k'

instance (c : Char) : Decidable (IsLowerOfAscii c) :=
  inferInstanceAs (Decidable (_ ∧ _))

/-! ## One character -/

/-- What the runs are for ASCII: only the capital letters are in one. -/
theorem find?_caseRuns_of_ascii :
    ∀ n < 0x80, (caseRuns.find? fun r => r.covers n) =
      if 0x41 ≤ n ∧ n ≤ 0x5a then some ⟨0x41, 0x5a, 1, 32⟩ else none := by
  decide +kernel

/-- The images of a run are characters outside of ASCII. -/
def CaseRun.StaysOutside (r : CaseRun) : Prop :=
  0x80 ≤ r.first + r.shift ∧
    (r.last + r.shift < 0xD800 ∨ 0xE000 ≤ r.first + r.shift ∧ r.last + r.shift < 0x110000)

instance (r : CaseRun) : Decidable r.StaysOutside :=
  inferInstanceAs (Decidable (_ ∧ _))

/-- What the runs are outside of ASCII: the Kelvin sign is the only way into it. -/
theorem caseRuns_outside :
    ∀ r ∈ caseRuns, r.last < 0x80 ∨ r = ⟨0x212a, 0x212a, 1, -8383⟩ ∨ r.StaysOutside := by
  decide +kernel

theorem isAsciiUpper_iff {c : Char} : isAsciiUpper c = true ↔ 0x41 ≤ c.toNat ∧ c.toNat ≤ 0x5a := by
  rw [isAsciiUpper, Bool.and_eq_true, decide_eq_true_eq, decide_eq_true_eq]
  exact Iff.rfl

theorem lowerChar_of_ascii {c : Char} (h : c.toNat < 0x80) : lowerChar c = [asciiLowerChar c] := by
  have hdotted : c ≠ 'İ' := by
    rintro rfl
    exact absurd h (by decide)
  unfold lowerChar asciiLowerChar
  rw [if_neg hdotted, find?_caseRuns_of_ascii _ h]
  by_cases hrange : 0x41 ≤ c.toNat ∧ c.toNat ≤ 0x5a
  · rw [if_pos hrange, if_pos (isAsciiUpper_iff.2 hrange)]
    rfl
  · rw [if_neg hrange, if_neg (fun hc => hrange (isAsciiUpper_iff.1 hc))]

theorem toNat_charOfNat {n : Nat} (h : n < 0xD800 ∨ 0xE000 ≤ n ∧ n < 0x110000) :
    (Char.ofNat n).toNat = n := by
  have hvalid : n.isValidChar := by
    rcases h with h | h
    · exact .inl h
    · exact .inr ⟨by omega, h.2⟩
  rw [Char.ofNat, dif_pos hvalid]
  rfl

/-- A character outside of ASCII is lowered to something that begins outside of it, or with one of the
two letters. -/
theorem lowerChar_of_not_ascii {c : Char} (h : 0x80 ≤ c.toNat) :
    ∃ d ds, lowerChar c = d :: ds ∧ ¬ IsLowerOfAscii d := by
  unfold lowerChar
  split_ifs with hdotted
  · exact ⟨'i', _, rfl, by decide⟩
  · cases hfind : caseRuns.find? fun r => r.covers c.toNat with
    | none =>
      refine ⟨c, [], rfl, ?_⟩
      rintro ⟨hascii, -⟩
      omega
    | some r =>
      refine ⟨_, [], rfl, ?_⟩
      have hcovers := List.find?_some hfind
      simp only [CaseRun.covers, Bool.and_eq_true, decide_eq_true_eq] at hcovers
      obtain ⟨⟨hfirst, hlast⟩, -⟩ := hcovers
      rcases caseRuns_outside r (List.mem_of_find?_eq_some hfind) with hr | rfl | ⟨hlow, hvalid⟩
      · omega
      · have hkelvin : c.toNat = 0x212a := Nat.le_antisymm hlast hfirst
        rw [hkelvin]
        decide
      · rintro ⟨hascii, -⟩
        rw [toNat_charOfNat (by omega)] at hascii
        omega

theorem asciiLowerChar_of_not_ascii {c : Char} (h : 0x80 ≤ c.toNat) :
    asciiLowerChar c = c := by
  have hupper : ¬ isAsciiUpper c = true := by
    intro hc
    obtain ⟨-, hle⟩ := isAsciiUpper_iff.1 hc
    omega
  rw [asciiLowerChar, if_neg hupper]

/-! ## Letters -/

theorem isAlpha_iff {c : Char} : c.isAlpha = true ↔
    (65 ≤ c.toNat ∧ c.toNat ≤ 90) ∨ (97 ≤ c.toNat ∧ c.toNat ≤ 122) := by
  show (decide (c.val ≥ 'A'.val ∧ c.val ≤ 'Z'.val) ||
    (decide (c.val ≥ 'a'.val) && decide (c.val ≤ 'z'.val))) = true ↔ _
  simp only [Bool.or_eq_true, Bool.and_eq_true, decide_eq_true_eq, ge_iff_le, UInt32.le_iff_toNat_le]
  exact Iff.rfl

/-- What is lowered to a letter is a letter. -/
theorem isAlpha_of_asciiLowerChar {c : Char} (h : (asciiLowerChar c).isAlpha = true) :
    c.isAlpha = true := by
  unfold asciiLowerChar at h
  split at h
  · next hupper => exact isAlpha_iff.2 (.inl (isAsciiUpper_iff.1 hupper))
  · exact h

/-! ## A text -/

theorem lowerAfter_eq_iff {cs target : List Char} (htarget : ∀ c ∈ target, IsLowerOfAscii c)
    (before : List Char) : lowerAfter before cs = target ↔ cs.map asciiLowerChar = target := by
  induction cs generalizing before target with
  | nil => rfl
  | cons c cs ih =>
    rw [lowerAfter, List.map_cons]
    by_cases hc : c.toNat < 0x80
    · have hsigma : c ≠ 'Σ' := by
        rintro rfl
        exact absurd hc (by decide)
      rw [if_neg hsigma, lowerChar_of_ascii hc, List.singleton_append]
      cases target with
      | nil => simp
      | cons d target =>
        rw [List.cons.injEq, List.cons.injEq,
          ih (fun x hx => htarget x (List.mem_cons_of_mem _ hx))]
    -- both sides begin outside of what the target has
    · have hc : 0x80 ≤ c.toNat := Nat.le_of_not_lt hc
      have hleft : ∃ d ds, (if c = 'Σ' then
          [if reachesCased before && !reachesCased cs then 'ς' else 'σ'] else lowerChar c) = d :: ds ∧
            ¬ IsLowerOfAscii d := by
        split_ifs
        · exact ⟨'ς', [], rfl, by decide⟩
        · exact ⟨'σ', [], rfl, by decide⟩
        · exact lowerChar_of_not_ascii hc
      obtain ⟨d, ds, hd, houtside⟩ := hleft
      rw [hd, asciiLowerChar_of_not_ascii hc]
      constructor
      · rintro rfl
        exact absurd (htarget d List.mem_cons_self) houtside
      · rintro rfl
        have hascii := (htarget c List.mem_cons_self).1
        omega

/-- **A text without `k` and `i` is a lowercase by ASCII letters alone.** -/
theorem lowercase_eq_iff {s t : String} (ht : ∀ c ∈ t.toList, IsLowerOfAscii c) :
    lowercase s = t ↔ asciiLower s = t := by
  unfold lowercase asciiLower
  rw [← String.toList_inj, ← String.toList_inj, String.toList_ofList, String.toList_ofList]
  exact lowerAfter_eq_iff ht []

/-- The Kelvin sign is lowered to a letter of ASCII, though it is none. -/
example : lowercase "\u212a" = "k" ∧ asciiLower "\u212a" ≠ "k" := by decide +kernel

-- A sigma behind a Cyrillic letter ends the word.
example : lowercase "\u1c89\u03a3" = "\u1c8a\u03c2" := by decide +kernel

/-! ## Lowering twice -/

/-- A character that is lowered to itself wherever it stands. -/
def IsLowered (c : Char) : Prop :=
  c ≠ 'Σ' ∧ lowerChar c = [c]

/-- The first and the last image of a run. -/
def CaseRun.image (r : CaseRun) : Nat × Nat :=
  ((r.first + r.shift).toNat, (r.last + r.shift).toNat)

/-- A run that has one character goes in any steps. -/
def CaseRun.stride (r : CaseRun) : Nat :=
  if r.first = r.last then 2 else r.step

/-- The run holds nothing of what goes in steps from `first` to `last`. -/
def CaseRun.avoids (r : CaseRun) (step first last : Nat) : Bool :=
  last.blt r.first || r.last.blt first || (r.step == 2 && step == 2 && (first - r.first) % 2 == 1)

/-- The runs hold nothing of what goes in steps from `first` to `last`, and neither is the capital I with
a dot in it. -/
def runsAvoid (step first last : Nat) : Bool :=
  (last.blt 0x130 || Nat.blt 0x130 first) && caseRuns.all fun r => r.avoids step first last

/-- What the images of the runs are: characters, and none that is lowered in turn. -/
theorem caseRuns_image :
    ∀ r ∈ caseRuns, 0 ≤ r.first + r.shift ∧
      (r.image.2 < 0xD800 ∨ 0xE000 ≤ r.image.1 ∧ r.image.2 < 0x110000) ∧
      runsAvoid r.stride r.image.1 r.image.2 = true := by
  decide +kernel

theorem CaseRun.not_covers_of_avoids {q r : CaseRun} {n m : Nat} (hcovers : r.covers n = true)
    (_ : 0 ≤ r.first + r.shift) (hm : m = ((n : Int) + r.shift).toNat)
    (h : q.avoids r.stride r.image.1 r.image.2 = true) : q.covers m = false := by
  simp only [covers, Bool.and_eq_true, decide_eq_true_eq, beq_iff_eq] at hcovers
  simp only [avoids, image, Bool.or_eq_true, Bool.and_eq_true, Nat.blt_eq, beq_iff_eq] at h
  obtain ⟨⟨hfirst, hlast⟩, hstep⟩ := hcovers
  rw [Bool.eq_false_iff]
  simp only [covers, ne_eq, Bool.and_eq_true, decide_eq_true_eq, beq_iff_eq, not_and]
  rintro ⟨hqfirst, hqlast⟩ hqstep
  rcases h with (h | h) | ⟨⟨hq, hr⟩, hodd⟩
  · omega
  · omega
  · rw [hq] at hqstep
    unfold stride at hr
    split at hr
    · omega
    · rw [hr] at hstep
      omega

/-- What a character is lowered to is lowered to itself. -/
theorem isLowered_of_mem_lowerChar {c d : Char} (hc : c ≠ 'Σ') (hd : d ∈ lowerChar c) :
    IsLowered d := by
  unfold lowerChar at hd
  split_ifs at hd with hdotted
  · rcases List.mem_cons.1 hd with rfl | hd
    · exact ⟨by decide, by decide +kernel⟩
    · obtain rfl := List.mem_singleton.1 hd
      exact ⟨by decide, by decide +kernel⟩
  · cases hfind : caseRuns.find? fun r => r.covers c.toNat with
    | none =>
      rw [hfind] at hd
      obtain rfl := List.mem_singleton.1 hd
      refine ⟨hc, ?_⟩
      unfold lowerChar
      rw [if_neg hdotted, hfind]
    | some r =>
      rw [hfind] at hd
      obtain rfl := List.mem_singleton.1 hd
      have hcovers := List.find?_some hfind
      obtain ⟨hpos, hvalid, havoid⟩ := caseRuns_image r (List.mem_of_find?_eq_some hfind)
      have hrange := hcovers
      simp only [CaseRun.covers, Bool.and_eq_true, decide_eq_true_eq] at hrange
      simp only [CaseRun.image] at hvalid
      have hcode : (Char.ofNat ((c.toNat : Int) + r.shift).toNat).toNat =
          ((c.toNat : Int) + r.shift).toNat := toNat_charOfNat (by omega)
      rw [runsAvoid, Bool.and_eq_true, List.all_eq_true] at havoid
      have hnone : ∀ q ∈ caseRuns,
          q.covers (Char.ofNat ((c.toNat : Int) + r.shift).toNat).toNat = false := fun q hq =>
        CaseRun.not_covers_of_avoids hcovers hpos hcode (havoid.2 q hq)
      constructor
      -- the capital sigma is in a run
      · intro hsigma
        have hsome := hnone ⟨0x3a3, 0x3ab, 1, 32⟩ (by decide +kernel)
        rw [hsigma] at hsome
        exact absurd hsome (by decide)
      · have hfirst := havoid.1
        simp only [CaseRun.image, Bool.or_eq_true, Nat.blt_eq] at hfirst
        have hother : Char.ofNat ((c.toNat : Int) + r.shift).toNat ≠ 'İ' := by
          intro heq
          rw [heq] at hcode
          have hdot : 'İ'.toNat = 0x130 := by decide
          omega
        have hmiss : (caseRuns.find? fun q =>
            q.covers (Char.ofNat ((c.toNat : Int) + r.shift).toNat).toNat) = none := by
          rw [List.find?_eq_none]
          intro q hq
          rw [hnone q hq]
          exact Bool.false_ne_true
        rw [lowerChar, if_neg hother, hmiss]

theorem isLowered_of_mem_lowerAfter {d : Char} (cs before : List Char)
    (hd : d ∈ lowerAfter before cs) : IsLowered d := by
  induction cs generalizing before with
  | nil => exact absurd hd List.not_mem_nil
  | cons c cs ih =>
    rw [lowerAfter, List.mem_append] at hd
    rcases hd with hd | hd
    · split_ifs at hd with hsigma hfinal
      · obtain rfl := List.mem_singleton.1 hd
        exact ⟨by decide, by decide +kernel⟩
      · obtain rfl := List.mem_singleton.1 hd
        exact ⟨by decide, by decide +kernel⟩
      · exact isLowered_of_mem_lowerChar hsigma hd
    · exact ih (c :: before) hd

theorem lowerAfter_of_isLowered {cs : List Char} (h : ∀ c ∈ cs, IsLowered c) (before : List Char) :
    lowerAfter before cs = cs := by
  induction cs generalizing before with
  | nil => rfl
  | cons c cs ih =>
    obtain ⟨⟨hsigma, hc⟩, hcs⟩ := List.forall_mem_cons.1 h
    rw [lowerAfter, if_neg hsigma, hc, ih hcs, List.singleton_append]

/-- **A lowercase text is its own lowercase.** No character is lowered to one that is lowered in turn, and
a sigma is small once it has been lowered, so that its neighbours do not matter any more. -/
theorem lowercase_lowercase (s : String) : lowercase (lowercase s) = lowercase s := by
  unfold lowercase
  rw [String.toList_ofList,
    lowerAfter_of_isLowered fun _ hd => isLowered_of_mem_lowerAfter s.toList [] hd]

end Cutout.Text
