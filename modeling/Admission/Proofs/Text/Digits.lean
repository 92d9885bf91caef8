import Admission.Text.Digit
/-!
Decimal digits. The digits that a number is written with stand for it again; a reader takes them
one by one, so its intermediate values never exceed the last one.
-/

namespace Admission.Text

def Digits (ds : List Char) : Prop := ∀ c ∈ ds, c.isDigit = true

/-- A text that does not go on with a digit. -/
def NoDigit (rest : List Char) : Prop := ∀ c tail, rest = c :: tail → c.isDigit = false

theorem digit_of_isDigit {c : Char} (decimal : c.isDigit = true) :
    digit c = some (c.toNat - '0'.toNat) := by
  have bounds := Char.isDigit_iff_toNat.mp decimal
  unfold digit
  exact if_pos bounds

theorem digit_eq_none {c : Char} (other : c.isDigit = false) : digit c = none := by
  have outside : ¬ ('0'.toNat ≤ c.toNat ∧ c.toNat ≤ '9'.toNat) := by
    rw [← Char.isDigit_iff_toNat, other]
    simp
  unfold digit
  exact if_neg outside

theorem digit_lt {c : Char} {d : Nat} (value : digit c = some d) : d < 10 := by
  simp only [digit] at value
  split at value
  · cases value
    omega
  · cases value

theorem isDigit_iff {c : Char} : isDigit c = true ↔ c.isDigit = true := by
  unfold isDigit
  cases decimal : c.isDigit with
  | true => simp [digit_of_isDigit decimal]
  | false => simp [digit_eq_none decimal]

theorem isDigit_eq_false {c : Char} (other : c.isDigit = false) : isDigit c = false := by
  rw [isDigit, digit_eq_none other]
  rfl

theorem noDigit_cons {c : Char} {tail : List Char} (other : c.isDigit = false) :
    NoDigit (c :: tail) := by
  intro d rest same
  cases same
  exact other

theorem digits_nil : Digits [] := by
  intro c member
  cases member

theorem digits_append {ds es : List Char} (left : Digits ds) (right : Digits es) :
    Digits (ds ++ es) := by
  intro c member
  rcases List.mem_append.mp member with inLeft | inRight
  · exact left c inLeft
  · exact right c inRight

theorem digits_toDigits (n : Nat) : Digits (Nat.toDigits 10 n) :=
  fun _ member => Nat.isDigit_of_mem_toDigits (by decide) (by decide) member

/-- Zero is the only number that is written with a zero in front. -/
theorem toDigits_leading (n : Nat) (positive : 0 < n) :
    ∃ c ds, Nat.toDigits 10 n = c :: ds ∧ c.isDigit = true ∧ c ≠ '0' := by
  induction n using Nat.strongRecOn with
  | ind n ih =>
    by_cases small : n < 10
    · have decimal : ∀ m < 10, 0 < m → m.digitChar.isDigit = true ∧ m.digitChar ≠ '0' := by
        decide
      exact ⟨n.digitChar, [], Nat.toDigits_of_lt_base small, decimal n small positive⟩
    · obtain ⟨c, ds, front, decimal, nonzero⟩ := ih (n / 10) (by omega) (by omega)
      refine ⟨c, ds ++ [(n % 10).digitChar], ?_, decimal, nonzero⟩
      rw [Nat.toDigits_of_base_le (by decide) (by omega), front, List.cons_append]

theorem digits_replicate_zero (n : Nat) : Digits (List.replicate n '0') := by
  intro c member
  rw [List.eq_of_mem_replicate member]
  rfl

theorem le_ofDigitChars (ds : List Char) (n : Nat) : n ≤ Nat.ofDigitChars 10 ds n := by
  rw [Nat.ofDigitChars_eq_ofDigitChars_zero]
  have scale : n ≤ 10 ^ ds.length * n := Nat.le_mul_of_pos_left n (Nat.pow_pos (by decide))
  omega

theorem dropWhile_isDigit {ds rest : List Char} (decimal : Digits ds) (ends : NoDigit rest) :
    (ds ++ rest).dropWhile isDigit = rest := by
  induction ds with
  | nil =>
    cases rest with
    | nil => rfl
    | cons c tail => simp [isDigit_eq_false (ends c tail rfl)]
  | cons d ds ih =>
    have head : isDigit d = true := isDigit_iff.mpr (decimal d (by simp))
    simp [head, ih (fun c member => decimal c (by simp [member]))]

theorem hexDigit_of_isDigit {c : Char} (decimal : c.isDigit = true) :
    hexDigit c = some (c.toNat - '0'.toNat) := by
  have bounds := Char.isDigit_iff_toNat.mp decimal
  unfold hexDigit
  exact if_pos bounds

theorem numberFrom_digits {ds : List Char} (decimal : Digits ds) (n : Nat) :
    numberFrom 10 n ds = some (Nat.ofDigitChars 10 ds n) := by
  induction ds generalizing n with
  | nil => rfl
  | cons d ds ih =>
    obtain ⟨head, tail⟩ := List.forall_mem_cons.mp decimal
    have bounds := Char.isDigit_iff_toNat.mp head
    have small : d.toNat - '0'.toNat < 10 := by
      have zero : '0'.toNat = 48 := rfl
      have nine : '9'.toNat = 57 := rfl
      omega
    simp only [numberFrom, hexDigit_of_isDigit head, small, if_true]
    rw [ih tail, Nat.ofDigitChars_cons, Nat.mul_comm]

theorem number?_toDigits (n : Nat) : number? 10 (Nat.toDigits 10 n) = some n := by
  unfold number?
  rw [if_neg Nat.toDigits_ne_nil, numberFrom_digits (digits_toDigits n),
    Nat.ofDigitChars_ten_toDigits]

end Admission.Text
