import Admission.Time.Instant
/-!
Days and dates. A day has its place in an era of four hundred years: a century, four years of that,
a year of those and a day of that year. The date is read off the place, and counts to the day again.
-/

namespace Admission.Time.Date

/-- Day `d` of year `r` of the four years `q` of century `c`. Only the last of four years has a
leap day, and of the last four years of a century only those of the last century. -/
structure Place (dayOfEra c q r d : Int) : Prop where
  total : dayOfEra = 36524 * c + 1461 * q + 365 * r + d
  century : 0 ≤ c ∧ c ≤ 3
  cycle : 0 ≤ q ∧ q ≤ 24
  year : 0 ≤ r ∧ r ≤ 3
  day : 0 ≤ d ∧ d ≤ 365
  leap : d = 365 → r = 3 ∧ (q = 24 → c = 3)

theorem exists_place (n : Int) (low : 0 ≤ n) (high : n < 146097) :
    ∃ c q r d, Place n c q r d := by
  -- The last century, and the last of four years, have one day more than the others.
  let c := min (n / 36524) 3
  let q := (n - 36524 * c) / 1461
  let r := min ((n - 36524 * c) % 1461 / 365) 3
  refine ⟨c, q, r, n - (36524 * c + 1461 * q + 365 * r), ?_, ?_, ?_, ?_, ?_, ?_⟩ <;> omega

theorem Place.yearOfEra {n c q r d : Int} (place : Place n c q r d) :
    (n - n / 1460 + n / 36524 - n / 146096) / 365 = 100 * c + 4 * q + r := by
  obtain ⟨total, century, cycle, year, day, leap⟩ := place
  have longYears : n / 1460 = 25 * c + q + (24 * c + q + 365 * r + d) / 1460 := by omega
  have centuries : n / 36524 = c + (1461 * q + 365 * r + d) / 36524 := by omega
  have last : (1461 * q + 365 * r + d) / 36524 = n / 146096 := by omega
  rw [longYears, centuries]
  omega

theorem Place.dayOfYear {n c q r d : Int} (place : Place n c q r d) :
    n - (365 * (100 * c + 4 * q + r) + (100 * c + 4 * q + r) / 4 - (100 * c + 4 * q + r) / 100) =
      d := by
  obtain ⟨total, century, cycle, year, day, leap⟩ := place
  omega

/-- The date of a day at that place of era `e`: month `m` of the year that starts in March. -/
theorem ofDayNumber_place {n e c q r d : Int} (place : Place (n + 719468 - 146097 * e) c q r d) :
    ofDayNumber n =
      let m := (5 * d + 2) / 153
      let day := (d - (153 * m + 2) / 5 + 1).toNat
      if m < 10 then ⟨100 * c + 4 * q + r + e * 400, (m + 3).toNat, day⟩
      else ⟨100 * c + 4 * q + r + e * 400 + 1, (m - 9).toNat, day⟩ := by
  have bounds : 0 ≤ n + 719468 - 146097 * e ∧ n + 719468 - 146097 * e < 146097 := by
    obtain ⟨total, century, cycle, year, day, leap⟩ := place
    omega
  have era : (n + 719468) / 146097 = e := by omega
  have dayOfEra : (n + 719468) % 146097 = n + 719468 - 146097 * e := by omega
  simp only [ofDayNumber, era, dayOfEra, place.yearOfEra, place.dayOfYear]

theorem exists_place_of_day (n : Int) :
    ∃ e c q r d, Place (n + 719468 - 146097 * e) c q r d := by
  obtain ⟨c, q, r, d, place⟩ := exists_place ((n + 719468) % 146097) (by omega) (by omega)
  refine ⟨(n + 719468) / 146097, c, q, r, d, ?_⟩
  have dayOfEra : n + 719468 - 146097 * ((n + 719468) / 146097) = (n + 719468) % 146097 := by omega
  rw [dayOfEra]
  exact place

theorem Place.days {n e c q r d y : Int} (place : Place (n + 719468 - 146097 * e) c q r d)
    (same : y = 100 * c + 4 * q + r + e * 400) :
    365 * y + y / 4 - y / 100 + y / 400 + d = n + 719468 := by
  obtain ⟨total, century, cycle, year, day, leap⟩ := place
  have fourth : y / 4 = 100 * e + 25 * c + q := by omega
  have hundredth : y / 100 = 4 * e + c := by omega
  have whole : y / 400 = e := by omega
  omega

theorem dayNumber_ofDayNumber (n : Int) : (ofDayNumber n).dayNumber = n := by
  obtain ⟨e, c, q, r, d, place⟩ := exists_place_of_day n
  rw [ofDayNumber_place place]
  have day := place.day
  obtain ⟨y, same⟩ : ∃ y, y = 100 * c + 4 * q + r + e * 400 := ⟨_, rfl⟩
  obtain ⟨m, month⟩ : ∃ m, m = (5 * d + 2) / 153 := ⟨_, rfl⟩
  have days := place.days same
  have dayOfMonth : ((d - (153 * m + 2) / 5 + 1).toNat : Int) = d - (153 * m + 2) / 5 + 1 := by
    omega
  simp only [← same, ← month]
  split
  · have march : ¬ (m + 3).toNat ≤ 2 := by omega
    have number : (((m + 3).toNat : Int) + 9) % 12 = m := by omega
    simp only [dayNumber, if_neg march, number, dayOfMonth]
    omega
  · have winter : (m - 9).toNat ≤ 2 := by omega
    have number : (((m - 9).toNat : Int) + 9) % 12 = m := by omega
    simp only [dayNumber, if_pos winter, number, dayOfMonth, Int.add_sub_cancel]
    omega

theorem isLeapYear_iff (year : Int) :
    isLeapYear year = true ↔ (year % 4 = 0 ∧ year % 100 ≠ 0) ∨ year % 400 = 0 := by
  simp [isLeapYear]

theorem Place.isLeapYear {n c q r d : Int} (place : Place n c q r d) (e : Int) (last : d = 365) :
    isLeapYear (100 * c + 4 * q + r + e * 400 + 1) = true := by
  obtain ⟨total, century, cycle, year, day, leap⟩ := place
  rw [isLeapYear_iff]
  omega

theorem ofDayNumber_day (n : Int) :
    1 ≤ (ofDayNumber n).day ∧
      (ofDayNumber n).day ≤ daysInMonth (ofDayNumber n).year (ofDayNumber n).month := by
  obtain ⟨e, c, q, r, d, place⟩ := exists_place_of_day n
  rw [ofDayNumber_place place]
  have day := place.day
  have leap := place.isLeapYear e
  obtain ⟨m, month⟩ : ∃ m, m = (5 * d + 2) / 153 := ⟨_, rfl⟩
  obtain ⟨y, same⟩ : ∃ y, y = 100 * c + 4 * q + r + e * 400 := ⟨_, rfl⟩
  have cases : m = 0 ∨ m = 1 ∨ m = 2 ∨ m = 3 ∨ m = 4 ∨ m = 5 ∨ m = 6 ∨ m = 7 ∨ m = 8 ∨ m = 9 ∨
      m = 10 ∨ m = 11 := by omega
  simp only [← month, ← same] at leap ⊢
  rcases cases with rfl | rfl | rfl | rfl | rfl | rfl | rfl | rfl | rfl | rfl | rfl | rfl
  case inr.inr.inr.inr.inr.inr.inr.inr.inr.inr.inr =>
    -- February
    by_cases last : d = 365
    · simp [daysInMonth, leap last, last]
    · simp [daysInMonth]
      split <;> omega
  all_goals simp [daysInMonth]
  all_goals omega

/-- The days in range are those of the years in range. -/
theorem ofDayNumber_year {n : Int} (first : Instant.firstDay ≤ n) (last : n ≤ Instant.lastDay) :
    firstYear ≤ (ofDayNumber n).year ∧ (ofDayNumber n).year ≤ lastYear := by
  have firstDay : Instant.firstDay = -96465292 := by decide
  have lastDay : Instant.lastDay = 95026236 := by decide
  obtain ⟨e, c, q, r, d, place⟩ := exists_place_of_day n
  rw [ofDayNumber_place place]
  have day := place.day
  obtain ⟨y, same⟩ : ∃ y, y = 100 * c + 4 * q + r + e * 400 := ⟨_, rfl⟩
  have days := place.days same
  simp only [firstYear, lastYear, ← same]
  have low : -262144 ≤ y ∧ (y = -262144 → 306 ≤ d) := by omega
  have high : y ≤ 262142 ∧ (y = 262142 → d < 306) := by omega
  split <;> simp only <;> omega

theorem ofDayNumber_valid {n : Int} (first : Instant.firstDay ≤ n) (last : n ≤ Instant.lastDay) :
    (ofDayNumber n).Valid :=
  ⟨(ofDayNumber_year first last).1, (ofDayNumber_year first last).2, ofDayNumber_day n⟩

theorem daysInMonth_le (year : Int) (month : Nat) : daysInMonth year month ≤ 31 := by
  unfold daysInMonth
  split
  · split <;> decide
  all_goals decide

theorem ofDayNumber_month (n : Int) :
    1 ≤ (ofDayNumber n).month ∧ (ofDayNumber n).month ≤ 12 := by
  obtain ⟨e, c, q, r, d, place⟩ := exists_place_of_day n
  rw [ofDayNumber_place place]
  have day := place.day
  simp only
  split <;> simp only <;> omega

end Admission.Time.Date
