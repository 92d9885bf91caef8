import Admission.Filter.LengthLimit
import Admission.Proofs.Text.Digits
import Admission.Proofs.Text.Run
import Mathlib.Data.List.Basic
/-!
Lengths in words. The words of a length are those of amounts, each a number of a unit. They are read
back in pairs of a number and a unit, and say the same number of seconds.
-/

namespace Admission.LengthLimit

open Time (Span)
open Text (splitOn number?)

def unitWord (many : Bool) (unit : String) : List Char :=
  unit.toList ++ if many then ['s'] else []

/-- The size of the unit that a word is, behind a number. -/
def unitSize? (n : Nat) (word : List Char) : Option Nat :=
  (units.find? fun u => unitWord (n ≠ 1) u.2 = word).map (·.1)

/-- The seconds that pairs of a number and a unit make up. -/
def spoken? : List (List Char) → Option Nat
  | [] => some 0
  | digits :: word :: more =>
      (number? 10 digits).bind fun n => (unitSize? n word).bind fun size =>
        (spoken? more).map (n * size + ·)
  | [_] => none

def seconds? (text : String) : Option Nat := spoken? (splitOn ' ' text.toList)

/-- A number of a unit that is `size` seconds long. -/
structure Amount where
  number : Nat
  size : Nat
  unit : String
  deriving DecidableEq

namespace Amount

def kind (a : Amount) : Nat × String := (a.size, a.unit)

def seconds (a : Amount) : Nat := a.number * a.size

/-- The unit is in the plural unless there is one of it. -/
def words (a : Amount) : List (List Char) :=
  [Nat.toDigits 10 a.number, unitWord (a.number ≠ 1) a.unit]

end Amount

/-- The seconds of all amounts. -/
def total : List Amount → Nat
  | [] => 0
  | a :: as => a.seconds + total as

/-- A text of the words of amounts, with one blank between each two. -/
def InWords (text : String) (as : List Amount) : Prop :=
  splitOn ' ' text.toList = as.flatMap Amount.words

theorem part_toList (n : Nat) (unit : String) :
    (part n unit).toList = Nat.toDigits 10 n ++ ' ' :: unitWord (n ≠ 1) unit := by
  by_cases one : n = 1 <;> simp [part, unitWord, one]

theorem splitOn_part {a : Amount} (listed : a.kind ∈ units) :
    splitOn ' ' (part a.number a.unit).toList = a.words := by
  have number : ' ' ∉ Nat.toDigits 10 a.number := by
    intro member
    cases Text.digits_toDigits a.number _ member
  have plain : ∀ many, ∀ u ∈ units, ' ' ∉ unitWord many u.2 := by decide
  have word : ' ' ∉ unitWord (a.number ≠ 1) a.unit := plain _ a.kind listed
  rw [part_toList, Text.splitOn_mark number, Text.splitOn_of_not_mem word]
  rfl

theorem unitSize?_of_mem {a : Amount} (listed : a.kind ∈ units) :
    unitSize? a.number (unitWord (a.number ≠ 1) a.unit) = some a.size := by
  have found : ∀ many, ∀ u ∈ units,
      (units.find? fun v => unitWord many v.2 = unitWord many u.2).map (·.1) = some u.1 := by
    decide
  exact found (a.number ≠ 1) a.kind listed

theorem spoken?_words {a : Amount} (listed : a.kind ∈ units) (more : List (List Char)) :
    spoken? (a.words ++ more) = (spoken? more).map (a.seconds + ·) := by
  rw [Amount.words, List.cons_append, List.singleton_append, spoken?, Text.number?_toDigits,
    Option.bind_some, unitSize?_of_mem listed, Option.bind_some]
  rfl

theorem spoken?_flatMap {as : List Amount} (listed : ∀ a ∈ as, a.kind ∈ units) :
    spoken? (as.flatMap Amount.words) = some (total as) := by
  induction as with
  | nil => rfl
  | cons a as ih =>
    obtain ⟨head, tail⟩ := List.forall_mem_cons.mp listed
    rw [List.flatMap_cons, spoken?_words head, ih tail, Option.map_some, total]

theorem splitOn_intercalate {ws : List String} (some : ws ≠ []) :
    splitOn ' ' (" ".intercalate ws).toList = ws.flatMap fun w => splitOn ' ' w.toList := by
  induction ws with
  | nil => exact absurd rfl some
  | cons w ws ih =>
    by_cases last : ws = []
    · subst last
      simp
    · have text : (" ".intercalate (w :: ws)).toList =
          w.toList ++ ' ' :: (" ".intercalate ws).toList := by
        rw [String.intercalate_cons_of_ne_nil last]
        simp
      rw [text, Text.splitOn_append_mark, ih last, List.flatMap_cons]

/-- What each unit takes of the seconds that are left. -/
def shares (rest : Nat) : List (Nat × String) → List Amount
  | [] => []
  | (size, unit) :: us => ⟨rest / size, size, unit⟩ :: shares (rest % size) us

/-- The amounts that are told. -/
def nonzero (as : List Amount) : List Amount := as.filter (·.number ≠ 0)

section Nonzero

variable {a : Amount}

theorem nonzero_cons_zero (zero : a.number = 0) (as : List Amount) :
    nonzero (a :: as) = nonzero as :=
  List.filter_cons_of_neg (by simpa using zero)

theorem nonzero_cons (counted : a.number ≠ 0) (as : List Amount) :
    nonzero (a :: as) = a :: nonzero as :=
  List.filter_cons_of_pos (by simpa using counted)

theorem mem_nonzero {as : List Amount} : a ∈ nonzero as ↔ a ∈ as ∧ a.number ≠ 0 := by
  simp [nonzero]

end Nonzero

/-- The amounts that a number of seconds is told in. -/
def amounts (n : Nat) : List Amount :=
  if nonzero (shares n units) = [] then [⟨0, 1, "second"⟩] else nonzero (shares n units)

theorem amounts_cases (n : Nat) :
    (nonzero (shares n units) = [] ∧ amounts n = [⟨0, 1, "second"⟩]) ∨
      (nonzero (shares n units) ≠ [] ∧ amounts n = nonzero (shares n units)) := by
  by_cases none : nonzero (shares n units) = []
  · exact .inl ⟨none, if_pos none⟩
  · exact .inr ⟨none, if_neg none⟩

theorem kinds_shares (rest : Nat) (us : List (Nat × String)) :
    (shares rest us).map Amount.kind = us := by
  induction us generalizing rest with
  | nil => rfl
  | cons u us ih => rw [shares, List.map_cons, ih, Amount.kind]

theorem total_nonzero (as : List Amount) : total (nonzero as) = total as := by
  induction as with
  | nil => rfl
  | cons a as ih =>
    by_cases zero : a.number = 0
    · rw [nonzero_cons_zero zero, ih, total, Amount.seconds, zero, Nat.zero_mul, Nat.zero_add]
    · rw [nonzero_cons zero, total, ih, total]

/-- Each unit takes what it can, so what is left is what the last one leaves. -/
theorem total_shares (rest : Nat) (us : List (Nat × String)) :
    total (shares rest us) + us.foldl (fun left u => left % u.1) rest = rest := by
  induction us generalizing rest with
  | nil => exact Nat.zero_add rest
  | cons u us ih =>
    have whole := Nat.div_add_mod' rest u.1
    rw [shares, total, List.foldl_cons, Nat.add_assoc, ih]
    exact whole

theorem total_amounts (n : Nat) : total (amounts n) = n := by
  -- Nothing is left once the seconds took their part.
  have exhausted : units.foldl (fun left u => left % u.1) n = 0 := Nat.mod_one _
  have whole := total_shares n units
  rw [exhausted, Nat.add_zero, ← total_nonzero] at whole
  rcases amounts_cases n with ⟨none, same⟩ | ⟨_, same⟩
  · rw [none] at whole
    rw [same]
    exact whole
  · rw [same]
    exact whole

theorem listed_amounts (n : Nat) : ∀ a ∈ amounts n, a.kind ∈ units := by
  intro a member
  rcases amounts_cases n with ⟨_, same⟩ | ⟨_, same⟩
  · rw [same] at member
    rw [List.mem_singleton.mp member]
    decide
  · rw [same] at member
    rw [← kinds_shares n units]
    exact List.mem_map_of_mem (mem_nonzero.mp member).1

/-- A unit that takes nothing leaves what it was given. -/
theorem parts_eq (rest : Nat) (us : List (Nat × String)) :
    parts rest us = (nonzero (shares rest us)).map fun a => part a.number a.unit := by
  induction us generalizing rest with
  | nil => rfl
  | cons u us ih =>
    rw [parts, shares]
    by_cases zero : rest / u.1 = 0
    · have kept : rest % u.1 = rest := by
        have whole := Nat.div_add_mod rest u.1
        rwa [zero, Nat.mul_zero, Nat.zero_add] at whole
      rw [if_pos zero, nonzero_cons_zero zero, kept, ih]
    · rw [if_neg zero, nonzero_cons zero, List.map_cons, ih]

theorem inWords_human (s : Span) : InWords (human s) (amounts s.wholeSeconds.toNat) := by
  have listed := listed_amounts s.wholeSeconds.toNat
  unfold InWords human
  rw [parts_eq]
  rcases amounts_cases s.wholeSeconds.toNat with ⟨none, same⟩ | ⟨some, same⟩
  · rw [none, same]
    decide
  · rw [same] at listed ⊢
    have spoken : (nonzero (shares s.wholeSeconds.toNat units)).map
        (fun a => part a.number a.unit) ≠ [] := mt List.map_eq_nil_iff.mp some
    split
    · contradiction
    · rw [splitOn_intercalate spoken, List.flatMap_map]
      exact List.flatMap_congr fun a member => splitOn_part (listed a member)

/-- The words of a length say its whole seconds, and zero for a negative one. -/
theorem seconds?_human (s : Span) : seconds? (human s) = some s.wholeSeconds.toNat := by
  rw [seconds?, inWords_human s, spoken?_flatMap (listed_amounts _), total_amounts]

end Admission.LengthLimit
