/-!
# Pieces between separators

A list is divided at every place where a separator stands. `intercalate_pieces` says that nothing else
is lost: with the separators put back, the pieces are the list again. `not_mem_of_mem_pieces` says that
no separator is left over, and `pieces_intercalate` that no other pieces are found than were put
together.
-/

namespace Cutout.Text

variable {α : Type} [DecidableEq α]

/-- The pieces of a list between separators. There is one more of them than there are separators. -/
def pieces (separator : α) : List α → List (List α)
  | [] => [[]]
  | x :: xs =>
    if x = separator then [] :: pieces separator xs
    else
      match pieces separator xs with
      | piece :: rest => (x :: piece) :: rest
      | [] => [[x]]

theorem pieces_ne_nil (separator : α) (xs : List α) : pieces separator xs ≠ [] := by
  cases xs with
  | nil => simp [pieces]
  | cons x xs =>
    rw [pieces]
    split
    · simp
    · split <;> simp

@[simp] theorem intercalate_pieces (separator : α) (xs : List α) :
    [separator].intercalate (pieces separator xs) = xs := by
  induction xs with
  | nil => rfl
  | cons x xs ih =>
    rw [pieces]
    cases h : pieces separator xs with
    | nil => exact absurd h (pieces_ne_nil separator xs)
    | cons piece rest =>
      rw [h] at ih
      by_cases hx : x = separator
      · subst hx
        rw [if_pos rfl]
        simpa [List.intercalate] using ih
      · rw [if_neg hx]
        cases rest with
        | nil => simpa [List.intercalate] using ih
        | cons q rest => simpa [List.intercalate] using ih

/-- No piece holds a separator. -/
theorem not_mem_of_mem_pieces {separator : α} {xs piece : List α}
    (h : piece ∈ pieces separator xs) : separator ∉ piece := by
  induction xs generalizing piece with
  | nil =>
    obtain rfl : piece = [] := by simpa [pieces] using h
    exact List.not_mem_nil
  | cons x xs ih =>
    rw [pieces] at h
    split at h
    · rcases List.mem_cons.1 h with rfl | h
      · exact List.not_mem_nil
      · exact ih h
    · next hx =>
      split at h
      · next first rest heq =>
        rw [heq] at ih
        rcases List.mem_cons.1 h with rfl | h
        · intro hm
          rcases List.mem_cons.1 hm with hm | hm
          · exact hx hm.symm
          · exact ih List.mem_cons_self hm
        · exact ih (List.mem_cons_of_mem _ h)
      · intro hm
        rcases List.mem_singleton.1 h with rfl
        exact hx (List.mem_singleton.1 hm).symm

theorem pieces_of_notMem {separator : α} {piece : List α} (h : separator ∉ piece) :
    pieces separator piece = [piece] := by
  induction piece with
  | nil => rfl
  | cons x piece ih =>
    have hx : x ≠ separator := fun hx => h (hx ▸ List.mem_cons_self)
    rw [pieces, if_neg hx, ih fun hm => h (List.mem_cons_of_mem _ hm)]

theorem pieces_append {separator : α} {piece : List α} (h : separator ∉ piece) (xs : List α) :
    pieces separator (piece ++ separator :: xs) = piece :: pieces separator xs := by
  induction piece with
  | nil => rw [List.nil_append, pieces, if_pos rfl]
  | cons x piece ih =>
    have hx : x ≠ separator := fun hx => h (hx ▸ List.mem_cons_self)
    rw [List.cons_append, pieces, if_neg hx, ih fun hm => h (List.mem_cons_of_mem _ hm)]

theorem intercalate_cons_cons {β : Type} (separator : β) (piece next : List β)
    (parts : List (List β)) :
    [separator].intercalate (piece :: next :: parts) =
      piece ++ separator :: [separator].intercalate (next :: parts) := by
  simp [List.intercalate]

/-- What has been put together with separators is taken apart again. -/
theorem pieces_intercalate {separator : α} {parts : List (List α)} (hne : parts ≠ [])
    (h : ∀ piece ∈ parts, separator ∉ piece) :
    pieces separator ([separator].intercalate parts) = parts := by
  induction parts with
  | nil => exact absurd rfl hne
  | cons piece parts ih =>
    have hpiece := h piece List.mem_cons_self
    cases parts with
    | nil =>
      have hone : [separator].intercalate [piece] = piece := by simp [List.intercalate]
      rw [hone, pieces_of_notMem hpiece]
    | cons next parts =>
      have hrest := ih (by simp) fun q hq => h q (List.mem_cons_of_mem _ hq)
      rw [intercalate_cons_cons, pieces_append hpiece, hrest]

end Cutout.Text
