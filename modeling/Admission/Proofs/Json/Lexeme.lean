import Admission.Json.Decoder
import Admission.Proofs.Text.Digits
/-!
The leaves of JSON read back. A string is read from what it is written as, whatever stands behind
its closing quote; an integer of a word is read from its digits, unless what follows would make
them another number.
-/

namespace Admission.Json

open Text (Digits NoDigit)

/-! Strings. -/

theorem hexDigit_value : ∀ n < 16, Text.hexDigit (hexDigit n) = some n := by decide

theorem stringBody_simple {mark c : Char} (simple : simpleEscape mark = some c)
    (cs : List Char) :
    stringBody ('\\' :: mark :: cs) = (stringBody cs).map fun r => (c :: r.1, r.2) := by
  have other : mark ≠ 'u' := by
    rintro rfl
    simp [simpleEscape] at simple
  simp [stringBody, other, simple]

theorem stringBody_control {c : Char} (control : c.toNat < 0x20) (cs : List Char) :
    stringBody ('\\' :: 'u' :: '0' :: '0' :: hexDigit (c.toNat / 16) ::
      hexDigit (c.toNat % 16) :: cs) = (stringBody cs).map fun r => (c :: r.1, r.2) := by
  have high := hexDigit_value (c.toNat / 16) (by omega)
  have low := hexDigit_value (c.toNat % 16) (by omega)
  have value : hexQuad '0' '0' (hexDigit (c.toNat / 16)) (hexDigit (c.toNat % 16)) =
      some c.toNat := by
    have zero : Text.hexDigit '0' = some 0 := by decide
    simp only [hexQuad, zero, high, low, Option.bind_eq_bind, Option.bind_some, Option.pure_def]
    congr 1
    omega
  have noLead : isLeading c.toNat = false := by simp [isLeading]; omega
  have noTrail : isTrailing c.toNat = false := by simp [isTrailing]; omega
  simp [stringBody, value, noLead, noTrail]

theorem stringBody_escapeChar (c : Char) (cs : List Char) :
    stringBody (escapeChar c ++ cs) = (stringBody cs).map fun r => (c :: r.1, r.2) := by
  have named (code : Char) (same : c.toNat = code.toNat) {mark : Char}
      (simple : simpleEscape mark = some code) :
      stringBody (['\\', mark] ++ cs) = (stringBody cs).map fun r => (c :: r.1, r.2) := by
    rw [Char.toNat_inj.mp same]
    exact stringBody_simple simple cs
  unfold escapeChar
  split
  · rename_i same
    exact named _ (congrArg Char.toNat same) rfl
  split
  · rename_i same
    exact named _ (congrArg Char.toNat same) rfl
  split
  · exact named '\x08' ‹_› rfl
  split
  · exact named '\t' ‹_› rfl
  split
  · exact named '\n' ‹_› rfl
  split
  · exact named '\x0c' ‹_› rfl
  split
  · exact named '\r' ‹_› rfl
  split
  · exact stringBody_control ‹_› cs
  · rename_i _ backslash _ _ _ _ _ printable
    simp [stringBody, backslash, printable]

theorem stringBody_flatMap (s rest : List Char) :
    stringBody (s.flatMap escapeChar ++ '"' :: rest) = .ok (s, rest) := by
  induction s with
  | nil => simp [stringBody]
  | cons c s ih =>
    rw [List.flatMap_cons, List.append_assoc, stringBody_escapeChar, ih]
    rfl

/-! Integers. -/

/-- What may follow a value: the end, or the next entry or the end of its container. -/
def Delimited : List Char → Prop
  | [] => True
  | c :: _ => c = ',' ∨ c = ']' ∨ c = '\x7d'

theorem Delimited.noDigit {rest : List Char} (ends : Delimited rest) : NoDigit rest := by
  intro c tail same
  subst same
  rcases ends with same | same | same <;> subst same <;> rfl

theorem gather_digits {ds rest : List Char} (n taken : Nat) (decimal : Digits ds)
    (ends : NoDigit rest) (fits : Nat.ofDigitChars 10 ds n < wordLimit) :
    gather n taken (ds ++ rest) = (Nat.ofDigitChars 10 ds n, taken + ds.length, rest) := by
  induction ds generalizing n taken with
  | nil =>
    cases rest with
    | nil => simp [gather]
    | cons c tail => simp [gather, Text.digit_eq_none (ends c tail rfl)]
  | cons d ds ih =>
    rw [Nat.ofDigitChars_cons] at fits
    have step : n * 10 + (d.toNat - '0'.toNat) = 10 * n + (d.toNat - '0'.toNat) := by omega
    have room : 10 * n + (d.toNat - '0'.toNat) < wordLimit :=
      Nat.lt_of_le_of_lt (Text.le_ofDigitChars ds _) fits
    rw [List.cons_append, gather, Text.digit_of_isDigit (decimal d (by simp))]
    simp only [step, room, if_true]
    rw [ih _ _ (fun c member => decimal c (by simp [member])) fits, Nat.ofDigitChars_cons,
      List.length_cons, Nat.add_right_comm, Nat.add_assoc]

theorem afterWhole_delimited (negative : Bool) (n : Nat) {rest : List Char}
    (ends : Delimited rest) :
    afterWhole negative n 0 rest = .ok (wholeNumber negative n, rest) := by
  cases rest with
  | nil => simp [afterWhole]
  | cons c tail => rcases ends with same | same | same <;> subst same <;> simp [afterWhole, isMark]

theorem number_toDigits (negative : Bool) (n : Nat) {rest : List Char} (ends : Delimited rest)
    (fits : n < wordLimit) :
    number negative (Nat.toDigits 10 n ++ rest) = .ok (wholeNumber negative n, rest) := by
  by_cases zero : n = 0
  · subst zero
    have start : Text.digit '0' = some 0 := by decide
    rw [Nat.toDigits_zero, List.singleton_append, number.eq_def]
    simp only [start]
    cases rest with
    | nil => exact afterWhole_delimited negative 0 ends
    | cons c tail =>
      simp only [Text.isDigit_eq_false (ends.noDigit c tail rfl)]
      exact afterWhole_delimited negative 0 ends
  · obtain ⟨c, ds, written, decimal, nonzero⟩ := Text.toDigits_leading n (Nat.pos_of_ne_zero zero)
    have bounds := Char.isDigit_iff_toNat.mp decimal
    have positive : c.toNat - '0'.toNat ≠ 0 := by
      intro same
      have least : '0'.toNat = 48 := rfl
      exact nonzero (Char.toNat_inj.mp (by omega))
    have all : Digits (c :: ds) := written ▸ Text.digits_toDigits n
    have value : Nat.ofDigitChars 10 ds (c.toNat - '0'.toNat) = n := by
      have whole := Nat.ofDigitChars_ten_toDigits (n := n)
      rwa [written, Nat.ofDigitChars_cons, Nat.mul_zero, Nat.zero_add] at whole
    have gathered : gather (c.toNat - '0'.toNat) 0 (ds ++ rest) = (n, 0 + ds.length, rest) := by
      rw [gather_digits _ 0 (fun d member => all d (by simp [member])) ends.noDigit
        (by rwa [value]), value]
    have tail : skipDigits rest = rest :=
      Text.dropWhile_isDigit Text.digits_nil ends.noDigit
    obtain ⟨d, same⟩ := Nat.exists_eq_succ_of_ne_zero positive
    rw [same] at gathered
    rw [written, List.cons_append, number.eq_def]
    simp only [Text.digit_of_isDigit decimal, same, gathered, tail, Nat.sub_self]
    exact afterWhole_delimited negative n ends

end Admission.Json
