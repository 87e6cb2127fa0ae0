import Cutout.Container
import Cutout.Proofs.Text.Lower

/-!
# The names of containers

A text names a container if it spells the name in any case of ASCII letters (`Spells`). Though the whole of
Unicode is lowered before names are compared, no other character can stand for a letter of a name, and
it makes no difference whether a text has been lowered before (`Container.parse_settles`).
-/

namespace Cutout.Container

variable {s : String} {c : Container}

/-! ## What is read -/

theorem parse_eq_ok_iff : parse s = .ok c ↔ Text.lowercase s = c.name := by
  unfold parse
  split
  · next h => rw [h]; cases c <;> simp [name]
  · next h => rw [h]; cases c <;> simp [name]
  · next hpng hwebp => cases c <;> simp_all [name]

theorem parse_eq_error (h : ∀ c : Container, Text.lowercase s ≠ c.name) :
    parse s = .error ⟨Text.lowercase s⟩ := by
  unfold parse
  split
  · next hs => exact absurd hs (h .png)
  · next hs => exact absurd hs (h .webp)
  · rfl

/-- A text is refused by its lowercase, where that names nothing. -/
theorem parse_eq_error_iff {u : Unknown} :
    parse s = .error u ↔ u.name = Text.lowercase s ∧ ∀ c : Container, Text.lowercase s ≠ c.name := by
  constructor
  · intro h
    have hother : ∀ c : Container, Text.lowercase s ≠ c.name := by
      intro c hc
      rw [parse_eq_ok_iff.2 hc] at h
      cases h
    rw [parse_eq_error hother] at h
    cases h
    exact ⟨rfl, hother⟩
  · rintro ⟨hname, hother⟩
    rw [parse_eq_error hother, ← hname]

/-! ## Letters -/

/-- The names are lowercase by ASCII letters alone. -/
theorem lowercase_eq_name_iff (c : Container) (v : String) :
    Text.lowercase v = c.name ↔ Text.asciiLower v = c.name := by
  have hall : (c.name.toList.all fun x => decide (Text.IsLowerOfAscii x)) = true := by
    cases c <;> decide
  exact Text.lowercase_eq_iff fun x hx => of_decide_eq_true (List.all_eq_true.1 hall x hx)

theorem asciiLower_name (c : Container) : Text.asciiLower c.name = c.name := by
  cases c <;> decide

theorem isAlpha_of_mem_name {x : Char} (hx : x ∈ c.name.toList) : x.isAlpha = true := by
  have hall : c.name.toList.all Char.isAlpha = true := by cases c <;> decide
  exact List.all_eq_true.1 hall x hx

/-- A text spells the name of a container: it is as long as the name, and the same up to the case of
ASCII letters. -/
structure Spells (s : String) (c : Container) : Prop where
  length : s.length = c.name.length
  letters : Text.sameAsciiCase s c.name = true

theorem spells_iff : Spells s c ↔ Text.asciiLower s = c.name := by
  have hsame : Text.sameAsciiCase s c.name = true ↔ Text.asciiLower s = c.name := by
    rw [Text.sameAsciiCase, beq_iff_eq, asciiLower_name]
  constructor
  · exact fun h => hsame.1 h.letters
  · refine fun h => ⟨?_, hsame.2 h⟩
    rw [← h, Text.asciiLower, String.length_ofList, List.length_map, String.length_toList]

/-- Nothing but letters of ASCII spells a name. -/
theorem Spells.isAlpha (h : Spells s c) {x : Char} (hx : x ∈ s.toList) : x.isAlpha = true := by
  have hmem : Text.asciiLowerChar x ∈ c.name.toList := by
    rw [← spells_iff.1 h, Text.asciiLower, String.toList_ofList]
    exact List.mem_map_of_mem hx
  exact Text.isAlpha_of_asciiLowerChar (isAlpha_of_mem_name hmem)

/-! ## The grammar -/

/-- **Which texts name a container.** Just those that spell its name, which are letters of ASCII. Any other
text is refused, and told by its lowercase. A text and its lowercase are the same to the reader. -/
theorem parse_settles (s : String) :
    (∀ c : Container, parse s = .ok c ↔ Spells s c) ∧
      (∀ u : Unknown, parse s = .error u ↔ u.name = Text.lowercase s ∧ ∀ c : Container, ¬ Spells s c) ∧
      (∀ c : Container, Spells s c → ∀ x ∈ s.toList, x.isAlpha = true) ∧
      parse (Text.lowercase s) = parse s := by
  have hspells (c : Container) : Text.lowercase s = c.name ↔ Spells s c :=
    (c.lowercase_eq_name_iff s).trans spells_iff.symm
  refine ⟨fun c => parse_eq_ok_iff.trans (hspells c), fun u => ?_, fun c h x hx => h.isAlpha hx, ?_⟩
  · rw [parse_eq_error_iff]
    exact and_congr_right fun _ => forall_congr' fun c => not_congr (hspells c)
  · unfold parse
    rw [Text.lowercase_lowercase]

/-- Wide letters are lowered as well, and spell no name. -/
example : parse "ＰＮＧ" = .error ⟨"ｐｎｇ"⟩ := by
  decide +kernel

end Cutout.Container
