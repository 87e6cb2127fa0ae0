import Cutout.Bytes
import Mathlib.Data.List.Infix

/-!
# Searching in byte strings

`Bytes.cut?` walks along a byte string and stops where the mark matches. `cut?_eq_some_iff` says
without walking what it finds: the mark with the least in front of it; `cut?_eq_none_iff` says that it
finds nothing only if there is nothing to be found. Two equations compute a search over a text of
which only the shape is known: bytes that cannot begin the mark are passed over
(`cut?_append_of_notMem`), and a mark whose first byte does not come again in it cannot begin in the
content that it ends (`cut?_append_mark`).

A search for the end of a word stops at the first letter that does not belong to one
(`span_append_stop`).
-/

namespace Cutout

/-- A word is read up to the first letter that does not belong to it. -/
theorem span_append_stop {α : Type} {f : α → Bool} {word : List α} (h : ∀ a ∈ word, f a = true)
    {c : α} (hc : f c = false) (rest : List α) :
    (word ++ c :: rest).takeWhile f = word ∧ (word ++ c :: rest).dropWhile f = c :: rest := by
  have hstop : ¬ f c = true := by simp [hc]
  constructor
  · rw [List.takeWhile_append_of_pos h, List.takeWhile_cons_of_neg hstop, List.append_nil]
  · rw [List.dropWhile_append_of_pos h, List.dropWhile_cons_of_neg hstop]

namespace Bytes

/-- `mark` stands between `before` and `after`, and stands nowhere earlier. -/
structure FirstCut (mark b before after : Bytes) : Prop where
  parts : b = before ++ mark ++ after
  least : ∀ x y, b = x ++ mark ++ y → before.length ≤ x.length

/-! ## One step of a search -/

theorem after?_eq_none_iff {lead b : Bytes} : after? lead b = none ↔ ¬ lead <+: b := by
  constructor
  · rintro h ⟨rest, rfl⟩
    rw [after?_append] at h
    exact absurd h (by simp)
  · intro h
    cases hb : after? lead b with
    | none => rfl
    | some rest => exact absurd ⟨rest, (eq_append_of_after? hb).symm⟩ h

theorem cutFrom_eq (mark seen b : Bytes) :
    cutFrom mark seen b = (cut? mark b).map fun p => (seen.reverse ++ p.1, p.2) := by
  unfold cut?
  induction b generalizing seen with
  | nil =>
    rw [cutFrom, cutFrom]
    split <;> simp
  | cons x b ih =>
    rw [cutFrom, cutFrom]
    split
    · simp
    · rw [ih, ih [x]]
      simp [Function.comp_def]

/-- A search that does not stop at once goes on behind the first byte. -/
theorem cut?_cons (mark : Bytes) (x : UInt8) (b : Bytes) :
    cut? mark (x :: b) =
      match after? mark (x :: b) with
      | some rest => some ([], rest)
      | none => (cut? mark b).map fun p => (x :: p.1, p.2) := by
  rw [cut?, cutFrom]
  cases after? mark (x :: b) with
  | some rest => rfl
  | none =>
    show cutFrom mark [x] b = _
    rw [cutFrom_eq]
    rfl

theorem cut?_append_self (mark rest : Bytes) : cut? mark (mark ++ rest) = some ([], rest) := by
  cases h : mark ++ rest with
  | nil =>
    obtain ⟨rfl, rfl⟩ := List.append_eq_nil_iff.1 h
    rfl
  | cons x b => rw [cut?_cons, ← h, after?_append]

/-! ## What a search finds -/

theorem cut?_eq_none_iff {mark b : Bytes} : cut? mark b = none ↔ ¬ mark <:+: b := by
  induction b with
  | nil =>
    rw [List.infix_nil, cut?, cutFrom]
    cases mark <;> simp
  | cons x b ih =>
    rw [cut?_cons, List.infix_cons_iff, not_or, ← after?_eq_none_iff, ← ih]
    cases h : after? mark (x :: b) <;> simp

theorem FirstCut.of_cut? {mark b before after : Bytes} (h : cut? mark b = some (before, after)) :
    FirstCut mark b before after := by
  refine ⟨eq_append_of_cut? h, ?_⟩
  -- along the bytes that are passed over: a mark is never left behind
  induction b generalizing before with
  | nil =>
    intro x y hb
    have hnil : before ++ mark ++ after = [] := (eq_append_of_cut? h).symm
    have hbefore : before = [] := by simp_all
    rw [hbefore]
    exact Nat.zero_le _
  | cons c b ih =>
    intro x y hb
    rw [cut?_cons] at h
    split at h
    · obtain ⟨rfl, rfl⟩ := Prod.mk.inj (Option.some.inj h)
      exact Nat.zero_le _
    · next hnone =>
      obtain ⟨p, hp, heq⟩ := Option.map_eq_some_iff.1 h
      obtain ⟨rfl, rfl⟩ := Prod.mk.inj heq
      cases x with
      | nil => exact absurd ⟨y, hb.symm⟩ (after?_eq_none_iff.1 hnone)
      | cons d x =>
        have hx : b = x ++ mark ++ y := (List.cons.inj hb).2
        have := ih hp x y hx
        simp only [List.length_cons]
        omega

theorem FirstCut.unique {mark b before after before' after' : Bytes}
    (h : FirstCut mark b before after) (h' : FirstCut mark b before' after') :
    before = before' ∧ after = after' := by
  have hlen : before.length = before'.length :=
    Nat.le_antisymm (h.least _ _ h'.parts) (h'.least _ _ h.parts)
  have heq : before ++ (mark ++ after) = before' ++ (mark ++ after') := by
    rw [← List.append_assoc, ← List.append_assoc, ← h.parts, ← h'.parts]
  obtain ⟨hbefore, hrest⟩ := List.append_inj heq hlen
  exact ⟨hbefore, List.append_cancel_left hrest⟩

/-- A search finds the mark where it stands first. -/
theorem cut?_eq_some_iff {mark b before after : Bytes} :
    cut? mark b = some (before, after) ↔ FirstCut mark b before after := by
  constructor
  · exact FirstCut.of_cut?
  · intro h
    cases hc : cut? mark b with
    | none => exact absurd ⟨before, after, h.parts.symm⟩ (cut?_eq_none_iff.1 hc)
    | some p =>
      have hfound : FirstCut mark b p.1 p.2 := FirstCut.of_cut? hc
      obtain ⟨hbefore, hafter⟩ := hfound.unique h
      rw [← hbefore, ← hafter]

/-- What follows the bytes that were searched does not change where the mark stands first. -/
theorem FirstCut.append {mark b before after : Bytes} (h : FirstCut mark b before after)
    (tail : Bytes) : FirstCut mark (b ++ tail) before (after ++ tail) := by
  refine ⟨by rw [h.parts]; simp only [List.append_assoc], ?_⟩
  intro x y hxy
  by_contra hlt
  have hlen : (x ++ mark).length ≤ b.length := by
    rw [h.parts]
    simp only [List.length_append]
    omega
  -- a mark that begins earlier ends earlier, so it lies within what was searched
  obtain ⟨y', hy'⟩ := List.prefix_of_prefix_length_le ⟨y, hxy.symm⟩ ⟨tail, rfl⟩ hlen
  have := h.least x y' hy'.symm
  omega

/-- In what bytes begin with, the mark stands where it stands in all of them, or nowhere. -/
theorem FirstCut.of_append {mark b tail before after : Bytes}
    (h : FirstCut mark (b ++ tail) before after) :
    ¬ mark <:+: b ∨ ∃ after', FirstCut mark b before after' ∧ after = after' ++ tail := by
  cases hc : cut? mark b with
  | none => exact .inl (cut?_eq_none_iff.1 hc)
  | some p =>
    have hfound : FirstCut mark b p.1 p.2 := .of_cut? hc
    obtain ⟨rfl, rfl⟩ := h.unique (hfound.append tail)
    exact .inr ⟨p.2, hfound, rfl⟩

/-! ## Searching along a text of known shape -/

/-- Bytes that cannot begin the mark are passed over. -/
theorem cut?_append_of_notMem {m : UInt8} (ms : Bytes) {a : Bytes} (h : m ∉ a) (b : Bytes) :
    cut? (m :: ms) (a ++ b) = (cut? (m :: ms) b).map fun p => (a ++ p.1, p.2) := by
  induction a with
  | nil => simp
  | cons x a ih =>
    have hx : m ≠ x := fun e => h (e ▸ List.mem_cons_self)
    have ha : m ∉ a := fun hm => h (List.mem_cons_of_mem _ hm)
    rw [List.cons_append, cut?_cons, after?, if_neg hx, ih ha]
    simp [Function.comp_def]

/-- The mark ends the content that it does not stand in. If it began in the content, its first byte
would come again where it was put. -/
theorem cut?_append_mark {m : UInt8} {ms content : Bytes} (hm : m ∉ ms)
    (h : ¬ (m :: ms) <:+: content) (rest : Bytes) :
    cut? (m :: ms) (content ++ (m :: ms) ++ rest) = some (content, rest) := by
  rw [cut?_eq_some_iff]
  refine ⟨rfl, ?_⟩
  intro x y hxy
  by_contra hlt
  have hlt : x.length < content.length := by omega
  obtain ⟨tail, rfl⟩ : ∃ tail, content = x ++ tail := by
    have hpre : x <+: content ++ ((m :: ms) ++ rest) := ⟨(m :: ms) ++ y, by simpa using hxy.symm⟩
    obtain ⟨tail, htail⟩ := List.prefix_of_prefix_length_le hpre ⟨_, rfl⟩ hlt.le
    exact ⟨tail, htail.symm⟩
  have hrest : tail ++ (m :: ms) ++ rest = (m :: ms) ++ y := by
    simpa using hxy
  by_cases hlong : (m :: ms).length ≤ tail.length
  · -- the mark lies within the content
    have hpre : (m :: ms) <+: tail := by
      refine List.prefix_of_prefix_length_le ⟨y, hrest.symm⟩ ?_ hlong
      exact ⟨(m :: ms) ++ rest, by simp⟩
    exact h (hpre.isInfix.trans (List.suffix_append x tail).isInfix)
  · -- the mark reaches over the end of the content, where `m` stands
    have htail : tail ≠ [] := by
      rintro rfl
      simp at hlt
    have hat : ((m :: ms) ++ y)[tail.length]? = some m := by
      rw [← hrest]
      simp
    obtain ⟨n, hn⟩ : ∃ n, tail.length = n + 1 :=
      Nat.exists_eq_succ_of_ne_zero (by simpa using htail)
    have hms : ms[n]? = some m := by
      rw [hn, List.getElem?_append_left (by simp at hlong ⊢; omega)] at hat
      simpa using hat
    exact hm (List.mem_of_getElem? hms)

end Bytes

end Cutout
