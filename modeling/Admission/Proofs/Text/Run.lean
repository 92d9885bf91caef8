import Admission.Text.Split
import Mathlib.Data.List.TakeWhile
/-!
Runs of characters of one kind, at the beginning of a text that goes on in another way, and the
parts of a text between marks that are not in them.
-/

namespace Admission.Text

variable {p : Char → Bool} {tail : List Char}

theorem takeWhile_append_of_stop (cs : List Char)
    (stop : ∀ c rest, tail = c :: rest → p c = false) :
    (cs ++ tail).takeWhile p = cs.takeWhile p := by
  induction cs with
  | nil =>
    cases tail with
    | nil => rfl
    | cons c rest => simp [stop c rest rfl]
  | cons c cs ih => simp only [List.cons_append, List.takeWhile_cons, ih]

theorem dropWhile_append_of_stop (cs : List Char)
    (stop : ∀ c rest, tail = c :: rest → p c = false) :
    (cs ++ tail).dropWhile p = cs.dropWhile p ++ tail := by
  induction cs with
  | nil =>
    cases tail with
    | nil => rfl
    | cons c rest => simp [stop c rest rfl]
  | cons c cs ih =>
    simp only [List.cons_append, List.dropWhile_cons, ih]
    split <;> rfl

theorem takeWhile_append_of_mem {front : List Char} {c : Char} (member : c ∈ front)
    (other : p c = false) (back : List Char) :
    (front ++ back).takeWhile p = front.takeWhile p := by
  rw [List.takeWhile_append]
  refine if_neg ?_
  intro whole
  have front := List.takeWhile_prefix (l := front) p
  have same := front.eq_of_length whole
  have kept := List.takeWhile_eq_self_iff.mp same c member
  rw [other] at kept
  cases kept

/-- A part that the mark is not in ends at the mark. -/
theorem takeWhile_mark {mark : Char} {part : List Char} (outside : mark ∉ part)
    (rest : List Char) : (part ++ mark :: rest).takeWhile (· != mark) = part := by
  rw [takeWhile_append_of_stop part (by rintro c rest ⟨⟩; simp), List.takeWhile_eq_self_iff]
  intro c member
  exact bne_iff_ne.mpr fun same => outside (same ▸ member)

theorem dropWhile_mark {mark : Char} {part : List Char} (outside : mark ∉ part)
    (rest : List Char) : (part ++ mark :: rest).dropWhile (· != mark) = mark :: rest := by
  rw [dropWhile_append_of_stop part (by rintro c rest ⟨⟩; simp), List.dropWhile_eq_nil_iff.mpr]
  · rfl
  · intro c member
    exact bne_iff_ne.mpr fun same => outside (same ▸ member)

theorem splitOn_eq (mark : Char) (cs : List Char) : splitOn mark cs = cs.splitOn mark := by
  unfold splitOn
  induction cs with
  | nil => rfl
  | cons c cs ih =>
    rw [splitWhere, ih, List.splitOn_cons_eq_if_modifyHead]
    split
    · rfl
    · obtain ⟨part, parts, same⟩ :=
        List.exists_cons_of_ne_nil (List.splitOn_ne_nil mark cs)
      rw [same]
      rfl

theorem splitOn_of_not_mem {mark : Char} {part : List Char} (outside : mark ∉ part) :
    splitOn mark part = [part] := by
  rw [splitOn_eq, List.splitOn_eq_singleton outside]

/-- Texts with a mark between them are split one by one. -/
theorem splitOn_append_mark (mark : Char) (front rest : List Char) :
    splitOn mark (front ++ mark :: rest) = splitOn mark front ++ splitOn mark rest := by
  simp only [splitOn_eq, List.splitOn_append_cons_self]

theorem splitOn_mark {mark : Char} {part : List Char} (outside : mark ∉ part) (rest : List Char) :
    splitOn mark (part ++ mark :: rest) = part :: splitOn mark rest := by
  rw [splitOn_append_mark, splitOn_of_not_mem outside, List.singleton_append]

/-- The parts tell the text. -/
theorem splitOn_injective (mark : Char) : Function.Injective (splitOn mark) := by
  intro left right same
  rw [splitOn_eq, splitOn_eq] at same
  calc
    left = [mark].intercalate (left.splitOn mark) := (List.intercalate_splitOn mark).symm
    _ = [mark].intercalate (right.splitOn mark) := by rw [same]
    _ = right := List.intercalate_splitOn mark

theorem mem_dropWhile {cs : List Char} {c : Char} (other : p c = false) :
    c ∈ cs.dropWhile p ↔ c ∈ cs := by
  constructor
  · intro member
    exact (List.dropWhile_sublist p).subset member
  · intro member
    rw [← List.takeWhile_append_dropWhile (p := p) (l := cs)] at member
    rcases List.mem_append.mp member with front | back
    · have kept := List.mem_takeWhile_imp front
      rw [other] at kept
      cases kept
    · exact back

theorem none_of_any {cs : List Char} (none : cs.any p = false) : ∀ c ∈ cs, p c = false :=
  fun c member => by simpa using List.any_eq_false.mp none c member

end Admission.Text
