import Mathlib.Data.List.DropRight
import Admission.Text.Blank
/-!
Texts without the white space around them. What is left of a text begins and ends with a visible
character, and is there if the text has one at all.
-/

namespace Admission.Text

/-- A text with a character that is not white space. -/
def Visible (s : String) : Prop := ∃ c ∈ s.toList, isBlank c = false

theorem blank_eq_false_iff {s : String} : blank s = false ↔ Visible s := by
  simp [blank, Visible]

instance (s : String) : Decidable (Visible s) := decidable_of_iff _ blank_eq_false_iff

theorem blank_iff {s : String} : blank s = true ↔ ¬ Visible s := by
  rw [← blank_eq_false_iff, Bool.not_eq_false]

/-- What is left of a text without the white space around it. -/
structure Stripped (cs rest : List Char) : Prop where
  around : ∃ front back, cs = front ++ (rest ++ back) ∧ (∀ c ∈ front, isBlank c = true) ∧
    ∀ c ∈ back, isBlank c = true
  first : ∀ c tail, rest = c :: tail → isBlank c = false
  last : ∀ init c, rest = init ++ [c] → isBlank c = false

theorem trim_eq (cs : List Char) :
    trim cs = (cs.dropWhile isBlank).rdropWhile isBlank := rfl

theorem stripped_trim (cs : List Char) : Stripped cs (trim cs) where
  around := by
    refine ⟨cs.takeWhile isBlank, (cs.dropWhile isBlank).rtakeWhile isBlank, ?_,
      fun c => List.mem_takeWhile_imp, fun c => List.mem_rtakeWhile_imp⟩
    rw [trim_eq, List.rdropWhile_append_rtakeWhile, List.takeWhile_append_dropWhile]
  first c tail same := by
    obtain ⟨back, whole⟩ := List.rdropWhile_prefix isBlank (cs.dropWhile isBlank)
    rw [← trim_eq, same, List.cons_append] at whole
    have some : cs.dropWhile isBlank ≠ [] := by simp [← whole]
    have front := List.head_dropWhile_not isBlank some
    simpa [← whole] using front
  last init c same := by
    rw [trim_eq] at same
    have some : (cs.dropWhile isBlank).rdropWhile isBlank ≠ [] := by simp [same]
    have back := List.rdropWhile_last_not isBlank (cs.dropWhile isBlank) some
    simpa [same] using back

theorem Visible.trimmed {s : String} (visible : Visible s) : Visible (trimmed s) := by
  obtain ⟨c, member, shown⟩ := visible
  obtain ⟨front, back, whole, left, right⟩ := (stripped_trim s.toList).around
  rw [whole, List.mem_append, List.mem_append] at member
  rcases member with before | inside | behind
  · simp [left c before] at shown
  · exact ⟨c, by simpa [Text.trimmed] using inside, shown⟩
  · simp [right c behind] at shown

end Admission.Text
