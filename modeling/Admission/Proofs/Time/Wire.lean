import Admission.Proofs.Except
import Admission.Proofs.Text.Digits
import Admission.Proofs.Time.Calendar
import Admission.Time.Reader
import Mathlib.Algebra.Group.Nat.Defs
/-!
Instants as texts. The text of an instant is read as that instant, and every instant that is read
from some text has such a text.
-/

namespace Admission.Time

open Text (Digits NoDigit)

/-! Numbers of a fixed width. -/

namespace Instant

theorem digits_padded (width n : Nat) : Digits (padded width n) :=
  Text.digits_append (Text.digits_replicate_zero _) (Text.digits_toDigits n)

theorem ofDigitChars_padded (width n : Nat) : Nat.ofDigitChars 10 (padded width n) 0 = n := by
  rw [padded, Nat.ofDigitChars_append, Nat.ofDigitChars_replicate_zero, Nat.mul_zero,
    Nat.ofDigitChars_ten_toDigits]

theorem padded_ne_nil (width n : Nat) : padded width n ≠ [] :=
  List.append_ne_nil_of_right_ne_nil _ Nat.toDigits_ne_nil

theorem length_padded {width n : Nat} (some : 0 < width) (fits : n < 10 ^ width) :
    (padded width n).length = width := by
  have short : (Nat.toDigits 10 n).length ≤ width :=
    (Nat.length_toDigits_le_iff (by decide) some).mpr fits
  rw [padded, List.length_append, List.length_replicate]
  omega

end Instant

namespace Reader

open Instant (padded)

theorem moreDigits_digits {ds rest : List Char} (n width : Nat) (decimal : Digits ds)
    (ends : NoDigit rest) (short : ds.length ≤ width)
    (fits : Nat.ofDigitChars 10 ds n < UInt64.size / 2) :
    moreDigits n width (ds ++ rest) = .ok (Nat.ofDigitChars 10 ds n, rest) := by
  induction ds generalizing n width with
  | nil =>
    cases width with
    | zero => rfl
    | succ width =>
      cases rest with
      | nil => rfl
      | cons c tail =>
        rw [List.nil_append, moreDigits, Text.digit_eq_none (ends c tail rfl)]
        rfl
  | cons d ds ih =>
    obtain ⟨width, rfl⟩ := Nat.exists_eq_succ_of_ne_zero (Nat.ne_of_gt (Nat.zero_lt_of_lt short))
    rw [Nat.ofDigitChars_cons] at fits ⊢
    have step : n * 10 + (d.toNat - '0'.toNat) = 10 * n + (d.toNat - '0'.toNat) := by omega
    have room : 10 * n + (d.toNat - '0'.toNat) < UInt64.size / 2 :=
      Nat.lt_of_le_of_lt (Text.le_ofDigitChars ds _) fits
    rw [List.cons_append, moreDigits, Text.digit_of_isDigit (decimal d (by simp))]
    simp only [step, room, if_true]
    exact ih _ _ (fun c member => decimal c (by simp [member])) (by simpa using short) fits

theorem number_digits {ds rest : List Char} (width : Nat) (decimal : Digits ds) (given : ds ≠ [])
    (ends : NoDigit rest) (short : ds.length ≤ width)
    (fits : Nat.ofDigitChars 10 ds 0 < UInt64.size / 2) :
    number width (ds ++ rest) = .ok (Nat.ofDigitChars 10 ds 0, rest) := by
  cases ds with
  | nil => exact absurd rfl given
  | cons d ds =>
    rw [Nat.ofDigitChars_cons, Nat.mul_zero, Nat.zero_add] at fits ⊢
    rw [List.cons_append, number, Text.digit_of_isDigit (decimal d (by simp))]
    have tail : ds.length ≤ width - 1 := Nat.le_sub_of_add_le short
    exact moreDigits_digits _ _ (fun c member => decimal c (by simp [member])) ends tail fits

theorem number_padded {places width n : Nat} {rest : List Char} (some : 0 < places)
    (fits : n < 10 ^ places) (ends : NoDigit rest) (short : places ≤ width)
    (small : n < UInt64.size / 2) : number width (padded places n ++ rest) = .ok (n, rest) := by
  have value := Instant.ofDigitChars_padded places n
  have read := number_digits width (Instant.digits_padded places n)
    (Instant.padded_ne_nil places n) ends (by rw [Instant.length_padded some fits]; exact short)
    (by rw [value]; exact small)
  rw [value] at read
  exact read

theorem isBlank_of_isDigit {c : Char} (decimal : c.isDigit = true) : Text.isBlank c = false := by
  have bounds := Char.isDigit_iff_toNat.mp decimal
  have zero : '0'.toNat = 48 := rfl
  have nine : '9'.toNat = 57 := rfl
  simp only [Text.isBlank, Bool.or_eq_false_iff, Bool.and_eq_false_iff, decide_eq_false_iff_not,
    beq_eq_false_iff_ne]
  omega

theorem trimStart_cons {c : Char} (cs : List Char) (visible : Text.isBlank c = false) :
    Text.trimStart (c :: cs) = c :: cs := by
  simp [Text.trimStart, visible]

theorem trimStart_digits {ds : List Char} (rest : List Char) (decimal : Digits ds)
    (given : ds ≠ []) : Text.trimStart (ds ++ rest) = ds ++ rest := by
  cases ds with
  | nil => exact absurd rfl given
  | cons d ds => exact trimStart_cons _ (isBlank_of_isDigit (decimal d (by simp)))

/-! The parts of a text. -/

theorem field_padded {low high n : Nat} {rest : List Char} (least : low ≤ n) (most : n ≤ high)
    (fits : n < 100) (ends : NoDigit rest) :
    field low high (padded 2 n ++ rest) = .ok (n, rest) := by
  have small : n < UInt64.size / 2 := Nat.lt_of_lt_of_le fits (by decide)
  have read := number_padded (by decide : 0 < 2) fits ends (Nat.le_refl 2) small
  rw [field, trimStart_digits rest (Instant.digits_padded 2 n) (Instant.padded_ne_nil 2 n), read]
  simp [bind, Except.bind, least, most]

theorem separator_cons {c : Char} (rest : List Char) (visible : Text.isBlank c = false) :
    separator c (c :: rest) = .ok rest := by
  rw [separator, trimStart_cons rest visible]
  simp

/-- A number with a sign may take all of the text that is left. -/
theorem number_signed {n : Nat} {rest : List Char} (ends : NoDigit rest)
    (small : n < UInt64.size / 2) :
    number (padded 4 n ++ rest).length (padded 4 n ++ rest) = .ok (n, rest) := by
  have value := Instant.ofDigitChars_padded 4 n
  have short : (padded 4 n).length ≤ (padded 4 n ++ rest).length := by simp
  have read := number_digits _ (Instant.digits_padded 4 n) (Instant.padded_ne_nil 4 n) ends short
    (by rw [value]; exact small)
  rw [value] at read
  exact read

theorem year_yearText {y : Int} {rest : List Char} (low : -2147483648 ≤ y) (high : y < 2147483648)
    (ends : NoDigit rest) : year (Instant.yearText y ++ rest) = .ok (y, rest) := by
  have small : y.natAbs < UInt64.size / 2 := by
    have limit : UInt64.size / 2 = 9223372036854775808 := rfl
    omega
  unfold Instant.yearText
  split
  · have fits : y.toNat < 10 ^ 4 := by omega
    have read := number_padded (by decide : 0 < 4) fits ends (Nat.le_refl 4)
      (Nat.lt_of_lt_of_le fits (by decide))
    have start := trimStart_digits rest (Instant.digits_padded 4 y.toNat)
      (Instant.padded_ne_nil 4 y.toNat)
    obtain ⟨c, ds, front⟩ := List.exists_cons_of_ne_nil (Instant.padded_ne_nil 4 y.toNat)
    have decimal : c.isDigit = true := Instant.digits_padded 4 y.toNat c (by simp [front])
    have unsigned : c ≠ '-' ∧ c ≠ '+' := by
      constructor <;> rintro rfl <;> cases decimal
    have same : (y.toNat : Int) = y := by omega
    rw [year, start]
    rw [front, List.cons_append] at read ⊢
    simp [unsigned, read, Except.map, bind, Except.bind, same, low, high]
  split
  · have read := number_signed ends small
    have same : -(y.natAbs : Int) = y := by omega
    rw [year, List.cons_append, trimStart_cons _ (by decide)]
    simp only [read, Except.map, bind, Except.bind, same, low, high, and_self, if_true]
  · have read := number_signed ends small
    have same : (y.natAbs : Int) = y := by omega
    rw [year, List.cons_append, trimStart_cons _ (by decide)]
    simp only [read, Except.map, bind, Except.bind, same, low, high, and_self, if_true]

/-- Each of the four forms of a fraction stands for its nanoseconds. -/
theorem fraction_fractionText {n : Nat} (fits : n < Instant.billion) {c : Char} (rest : List Char)
    (other : c.isDigit = false) (mark : c ≠ '.') :
    fraction (Instant.fractionText n ++ c :: rest) = .ok (n, c :: rest) := by
  have limit : Instant.billion = 1000000000 := rfl
  have places {w m : Nat} (some : 0 < w) (short : w ≤ 9) (below : m < 10 ^ w) :
      fraction ('.' :: (padded w m ++ c :: rest)) = .ok (m * 10 ^ (9 - w), c :: rest) := by
    have small : m < UInt64.size / 2 :=
      Nat.lt_of_lt_of_le (Nat.lt_of_lt_of_le below (Nat.pow_le_pow_right (by decide) short))
        (by decide)
    have taken : (padded w m ++ c :: rest).length - (c :: rest).length = w := by
      rw [List.length_append, Instant.length_padded some below, Nat.add_sub_cancel]
    have ends : NoDigit (c :: rest) := Text.noDigit_cons other
    have read := number_padded some below ends short small
    simp only [fraction, read, bind, Except.bind, taken, List.dropWhile_cons,
      Text.isDigit_eq_false other]
    rfl
  unfold Instant.fractionText
  split
  · subst n
    simp [fraction, mark]
  split
  · rw [List.cons_append, places (by decide) (by decide) (by omega)]
    congr 2
    omega
  split
  · rw [List.cons_append, places (by decide) (by decide) (by omega)]
    congr 2
    omega
  · rw [List.cons_append, places (by decide) (by decide) (by omega)]
    congr 2
    omega

theorem noDigit_fractionText (n : Nat) {c : Char} (rest : List Char) (other : c.isDigit = false) :
    NoDigit (Instant.fractionText n ++ c :: rest) := by
  unfold Instant.fractionText
  split
  · exact Text.noDigit_cons other
  split
  · exact Text.noDigit_cons rfl
  split
  · exact Text.noDigit_cons rfl
  · exact Text.noDigit_cons rfl

/-- What the text of an instant is made of: its date, and a clock that shows a leap second as the
sixtieth of its minute. -/
def wireFields (t : Instant) : Fields :=
  let leap := Instant.billion ≤ t.nano
  { date := Date.ofDayNumber t.day
    hour := t.second / 3600
    minute := t.second / 60 % 60
    second := t.second % 60 + (if leap then 1 else 0)
    nano := if leap then t.nano - Instant.billion else t.nano
    offset := 0 }

theorem fields_wireChars {t : Instant} (proper : t.Proper) :
    fields t.wireChars = .ok (wireFields t) := by
  obtain ⟨first, last, seconds, nanos, leap⟩ := proper
  obtain ⟨lowYear, highYear⟩ := Date.ofDayNumber_year first last
  obtain ⟨lowMonth, highMonth⟩ := Date.ofDayNumber_month t.day
  obtain ⟨lowDay, highDay⟩ := Date.ofDayNumber_day t.day
  have shortMonth :=
    Date.daysInMonth_le (Date.ofDayNumber t.day).year (Date.ofDayNumber t.day).month
  simp only [Date.firstYear, Date.lastYear] at lowYear highYear
  obtain ⟨second, clock⟩ : ∃ n, n = t.second % 60 + (if Instant.billion ≤ t.nano then 1 else 0) :=
    ⟨_, rfl⟩
  obtain ⟨nano, place⟩ : ∃ n, n = if Instant.billion ≤ t.nano then t.nano - Instant.billion
    else t.nano := ⟨_, rfl⟩
  have below : second ≤ 60 := by split at clock <;> omega
  have small : nano < Instant.billion := by split at place <;> omega
  have dash (cs : List Char) : NoDigit ('-' :: cs) := Text.noDigit_cons rfl
  have colon (cs : List Char) : NoDigit (':' :: cs) := Text.noDigit_cons rfl
  have separate (cs : List Char) : NoDigit ('T' :: cs) := Text.noDigit_cons rfl
  have year (cs : List Char) :=
    year_yearText (y := (Date.ofDayNumber t.day).year) (by omega) (by omega) (dash cs)
  have month (cs : List Char) := field_padded lowMonth highMonth (by omega) (dash cs)
  have day (cs : List Char) := field_padded lowDay (by omega : _ ≤ 31) (by omega) (separate cs)
  have hour (cs : List Char) := field_padded (Nat.zero_le _)
    (by omega : t.second / 3600 ≤ 23) (by omega) (colon cs)
  have minute (cs : List Char) := field_padded (Nat.zero_le _)
    (by omega : t.second / 60 % 60 ≤ 59) (by omega) (colon cs)
  have sixtieth := field_padded (Nat.zero_le _) below (by omega)
    (noDigit_fractionText nano (c := 'Z') [] rfl)
  have fraction := fraction_fractionText small (c := 'Z') [] rfl (by decide)
  have hyphen (cs : List Char) := separator_cons (c := '-') cs (by decide)
  have mark (cs : List Char) := separator_cons (c := ':') cs (by decide)
  simp only [fields, Instant.wireChars, Instant.dateText, Instant.clockText, ← clock, ← place,
    List.append_assoc, List.cons_append, dateEnd, year, month, day, hour, minute, hyphen, mark,
    sixtieth, fraction, bind, Except.bind, true_or, if_true]
  rw [clock, place]
  rfl

theorem instant_of_utc {f : Fields} {s : Nat} (valid : f.date.Valid) (utc : f.offset = 0)
    (clock : f.hour * 3600 + f.minute * 60 + (if f.second = 60 then 59 else f.second) = s)
    (below : s < 86400) (first : Instant.firstDay ≤ f.date.dayNumber)
    (last : f.date.dayNumber ≤ Instant.lastDay) :
    f.instant = .ok ⟨f.date.dayNumber, s,
      f.nano + (if f.second = 60 then Instant.billion else 0)⟩ := by
  have seconds : (f.hour : Int) * 3600 + (f.minute : Int) * 60 +
      ((if f.second = 60 then 59 else f.second : Nat) : Int) - f.offset = s := by omega
  have sameDay : f.date.dayNumber + (s : Int) / 86400 = f.date.dayNumber := by omega
  have sameSecond : ((s : Int) % 86400).toNat = s := by omega
  have near : ¬ 86400 ≤ f.offset.natAbs := by omega
  unfold Fields.instant
  rw [if_neg (not_not_intro valid), if_neg near]
  simp only [seconds, sameDay, sameSecond]
  rw [if_pos ⟨first, last⟩]

theorem instant_wireFields {t : Instant} (proper : t.Proper) :
    (wireFields t).instant = .ok t := by
  obtain ⟨first, last, seconds, nanos, leap⟩ := proper
  have number : (wireFields t).date.dayNumber = t.day := Date.dayNumber_ofDayNumber t.day
  have shown : (wireFields t).second = 60 ↔ Instant.billion ≤ t.nano := by
    simp only [wireFields]
    split <;> omega
  have clock : (wireFields t).hour * 3600 + (wireFields t).minute * 60 +
      (if (wireFields t).second = 60 then 59 else (wireFields t).second) = t.second := by
    simp only [shown]
    simp only [wireFields]
    split <;> omega
  have nano : (wireFields t).nano + (if (wireFields t).second = 60 then Instant.billion else 0) =
      t.nano := by
    simp only [shown]
    simp only [wireFields]
    split <;> omega
  rw [instant_of_utc (Date.ofDayNumber_valid first last) rfl clock seconds (by rwa [number])
    (by rwa [number]), number, nano]

/-! What an instant that was read is like. -/

theorem moreDigits_lt {n width m : Nat} {cs rest : List Char}
    (read : moreDigits n width cs = .ok (m, rest)) :
    ∃ taken ≤ width, cs.length = taken + rest.length ∧ m < (n + 1) * 10 ^ taken := by
  induction width generalizing n cs with
  | zero =>
    cases read
    exact ⟨0, Nat.le_refl 0, by simp, by simp⟩
  | succ width ih =>
    cases cs with
    | nil =>
      cases read
      exact ⟨0, Nat.zero_le _, by simp, by simp⟩
    | cons c cs =>
      rw [moreDigits] at read
      split at read
      · cases read
        exact ⟨0, Nat.zero_le _, by simp, by simp⟩
      · rename_i d value
        simp only at read
        split at read
        · obtain ⟨taken, short, length, below⟩ := ih read
          have small := Text.digit_lt value
          refine ⟨taken + 1, Nat.succ_le_succ short, by simp only [List.length_cons]; omega, ?_⟩
          calc m < (n * 10 + d + 1) * 10 ^ taken := below
            _ ≤ ((n + 1) * 10) * 10 ^ taken := Nat.mul_le_mul_right _ (by omega)
            _ = (n + 1) * 10 ^ (taken + 1) := by rw [Nat.mul_assoc, Nat.pow_succ']
        · cases read

theorem fraction_lt {n : Nat} {cs rest : List Char} (read : fraction cs = .ok (n, rest)) :
    n < Instant.billion := by
  unfold fraction at read
  split at read
  · rename_i places
    obtain ⟨⟨m, last⟩, digits, read⟩ := of_bind_ok read
    cases read
    cases places with
    | nil => cases digits
    | cons c places =>
      rw [number] at digits
      split at digits
      · cases digits
      · rename_i d value
        obtain ⟨taken, short, length, below⟩ := moreDigits_lt digits
        have small := Text.digit_lt value
        have used : (c :: places).length - last.length = taken + 1 := by
          simp only [List.length_cons]
          omega
        rw [used]
        calc m * 10 ^ (9 - (taken + 1)) < ((d + 1) * 10 ^ taken) * 10 ^ (9 - (taken + 1)) :=
              Nat.mul_lt_mul_of_pos_right below (Nat.pow_pos (by decide))
          _ = (d + 1) * 10 ^ 8 := by
              rw [Nat.mul_assoc, ← Nat.pow_add]
              congr 2
              omega
          _ ≤ 10 * 10 ^ 8 := Nat.mul_le_mul_right _ (by omega)
          _ = Instant.billion := rfl
  · cases read
    decide

theorem offset_minutes {z : Int} {cs rest : List Char} (read : offset cs = .ok (z, rest)) :
    z % 60 = 0 := by
  unfold offset at read
  simp only at read
  split at read
  · cases read
  split at read
  · cases read
    rfl
  split at read
  · obtain ⟨⟨a, b, middle⟩, _, read⟩ := of_bind_ok read
    obtain ⟨⟨c, d, last⟩, _, read⟩ := of_bind_ok read
    simp only at read
    split at read
    · cases read
    · cases read
      omega
  split at read
  · obtain ⟨⟨a, b, middle⟩, _, read⟩ := of_bind_ok read
    obtain ⟨⟨c, d, last⟩, _, read⟩ := of_bind_ok read
    simp only at read
    split at read
    · cases read
    · cases read
      omega
  · cases read

theorem zone_minutes {z : Int} {cs rest : List Char} (read : zone cs = .ok (z, rest)) :
    z % 60 = 0 := by
  unfold zone at read
  split at read
  · split at read
    · cases read
      rfl
    · exact offset_minutes read
  · exact offset_minutes read

theorem fields_bounds {f : Fields} {cs : List Char} (read : fields cs = .ok f) :
    f.nano < Instant.billion ∧ f.offset % 60 = 0 := by
  obtain ⟨_, _, read⟩ := of_bind_ok read
  obtain ⟨_, _, read⟩ := of_bind_ok read
  obtain ⟨_, _, read⟩ := of_bind_ok read
  obtain ⟨_, _, read⟩ := of_bind_ok read
  obtain ⟨_, _, read⟩ := of_bind_ok read
  obtain ⟨_, _, read⟩ := of_bind_ok read
  obtain ⟨_, _, read⟩ := of_bind_ok read
  obtain ⟨_, _, read⟩ := of_bind_ok read
  obtain ⟨_, _, read⟩ := of_bind_ok read
  obtain ⟨_, _, read⟩ := of_bind_ok read
  obtain ⟨_, _, read⟩ := of_bind_ok read
  obtain ⟨_, places, read⟩ := of_bind_ok read
  obtain ⟨_, shift, read⟩ := of_bind_ok read
  simp only at read
  split at read
  · cases read
    exact ⟨fraction_lt places, zone_minutes shift⟩
  · cases read

/-- An offset is of whole minutes, so the end of a minute is one everywhere. -/
theorem instant_proper {f : Fields} {t : Instant} (nano : f.nano < Instant.billion)
    (minutes : f.offset % 60 = 0) (made : f.instant = .ok t) : t.Proper := by
  obtain ⟨second, clock⟩ : ∃ n, n = if f.second = 60 then 59 else f.second := ⟨_, rfl⟩
  obtain ⟨extra, leap⟩ : ∃ n, n = if f.second = 60 then Instant.billion else 0 := ⟨_, rfl⟩
  have ending : Instant.billion ≤ f.nano + extra → second = 59 := by
    by_cases sixtieth : f.second = 60
    · simp [clock, sixtieth]
    · simp only [leap, sixtieth, if_false]
      omega
  have bound : extra ≤ Instant.billion := by
    rw [leap]
    split
    · exact Nat.le_refl _
    · exact Nat.zero_le _
  simp only [Fields.instant, ← clock, ← leap] at made
  split at made
  · cases made
  split at made
  · cases made
  split at made
  · rename_i range
    cases made
    refine ⟨range.1, range.2, by simp only; omega, ?_, fun inLeap => ?_⟩
    · exact Nat.two_mul _ ▸ Nat.add_lt_add_of_lt_of_le nano bound
    · have last := ending inLeap
      simp only
      omega
  · cases made

end Reader

/-- The text of an instant is read as that instant, leap seconds and far years included. -/
theorem Instant.parse_wire {t : Instant} (proper : t.Proper) : Instant.parse t.wire = .ok t := by
  rw [parse, wire, String.toList_ofList, Reader.fields_wireChars proper]
  exact Reader.instant_wireFields proper

theorem Instant.proper_of_parse {s : String} {t : Instant} (parsed : Instant.parse s = .ok t) :
    t.Proper := by
  obtain ⟨f, read, made⟩ := of_bind_ok parsed
  obtain ⟨nano, minutes⟩ := Reader.fields_bounds read
  exact Reader.instant_proper nano minutes made

end Admission.Time
