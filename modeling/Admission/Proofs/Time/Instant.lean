import Admission.Time.Instant
/-!
The order of instants and the time between them. They name the same instant as the later one except
at midnight, where the leap second that ends a day is not counted by the first second of the next.
Outside leap seconds both are those of the number of an instant's nanosecond.
-/

namespace Admission.Time.Instant

variable {a b c : Instant}

theorem lt_iff : a < b ↔ a.day < b.day ∨ a.day = b.day ∧
    (a.second < b.second ∨ a.second = b.second ∧ a.nano < b.nano) := Iff.rfl

theorem le_iff_not_lt : a ≤ b ↔ ¬ b < a := Iff.rfl

theorem le_iff : a ≤ b ↔ a.day < b.day ∨ a.day = b.day ∧
    (a.second < b.second ∨ a.second = b.second ∧ a.nano ≤ b.nano) := by
  rw [le_iff_not_lt, lt_iff]
  omega

theorem le_of_lt (before : a < b) : a ≤ b := by
  rw [le_iff]
  rw [lt_iff] at before
  omega

theorem lt_or_eq_of_le (le : a ≤ b) : a < b ∨ a = b := by
  by_cases same : a = b
  · exact .inr same
  · refine .inl ?_
    rw [le_iff] at le
    rw [lt_iff]
    rw [Instant.mk.injEq] at same
    omega

theorem le_trans (first : a ≤ b) (second : b ≤ c) : a ≤ c := by
  rw [le_iff] at *
  omega

theorem later_eq (a b : Instant) : a ≤ b ∧ a.later b = b ∨ b < a ∧ a.later b = a := by
  unfold later
  by_cases le : a ≤ b
  · exact .inl ⟨le, if_pos le⟩
  · exact .inr ⟨Decidable.not_not.mp le, if_neg le⟩

/-! The time between instants. -/

theorem leapSeconds_swap (a b : Instant) : leapSeconds a b = -leapSeconds b a := by
  unfold leapSeconds
  by_cases below : b.second < a.second
  · have above : ¬ a.second < b.second := by omega
    simp only [below, above, true_and, false_and, if_false]
    split <;> rfl
  · simp only [below, false_and, if_false]
    split <;> rfl

theorem since_swap (a b : Instant) : (a.since b).nanos = -(b.since a).nanos := by
  simp only [since, leapSeconds_swap a b, Span.nanosPerSecond]
  omega

theorem since_self (a : Instant) : (a.since a).nanos = 0 := by
  have swap := since_swap a a
  omega

theorem leapSeconds_eq_zero (first : a.nano < billion) (second : b.nano < billion) :
    leapSeconds a b = 0 := by
  unfold leapSeconds
  rw [if_neg (by omega), if_neg (by omega)]

/-- The first instant is in the leap second that ends its day, and the second one in the first
second of the next day. -/
structure AcrossMidnight (a b : Instant) : Prop where
  leap : billion ≤ a.nano
  last : a.second = 86399
  next : b.day = a.day + 1
  first : b.second = 0

instance (a b : Instant) : Decidable (AcrossMidnight a b) :=
  decidable_of_iff (billion ≤ a.nano ∧ a.second = 86399 ∧ b.day = a.day + 1 ∧ b.second = 0)
    ⟨fun ⟨leap, last, next, first⟩ => ⟨leap, last, next, first⟩,
      fun across => ⟨across.leap, across.last, across.next, across.first⟩⟩

theorem AcrossMidnight.lt (across : AcrossMidnight a b) : a < b := by
  rw [lt_iff]
  exact .inl (by rw [across.next]; omega)

theorem AcrossMidnight.since (across : AcrossMidnight a b) (proper : b.Proper) :
    (b.since a).nanos = (b.nano : Int) + billion - a.nano := by
  obtain ⟨leap, last, next, first⟩ := across
  have outside : b.nano < billion := by
    have minute := proper.2.2.2.2
    omega
  have uncounted : leapSeconds b a = 0 := by
    unfold leapSeconds
    rw [if_neg (by omega), if_neg (by omega)]
  simp only [Instant.since, uncounted, next, last, first, Span.nanosPerSecond, billion]
  omega

theorem acrossMidnight_of_since (first : a.Proper) (second : b.Proper) (before : a < b)
    (short : (b.since a).nanos ≤ 0) : AcrossMidnight a b := by
  obtain ⟨_, _, secondA, nanoA, leapA⟩ := first
  obtain ⟨_, _, secondB, nanoB, leapB⟩ := second
  rw [lt_iff] at before
  simp only [Instant.since, leapSeconds, Span.nanosPerSecond] at short
  have size : billion = 1000000000 := rfl
  -- Only over one midnight can the fractions outweigh the seconds in between: within a day a leap
  -- second is counted, and over more days there are too many seconds.
  split at short
  · omega
  split at short
  · omega
  · exact ⟨by omega, by omega, by omega, by omega⟩

/-! Outside leap seconds. -/

/-- The number of an instant's nanosecond. -/
def tick (t : Instant) : Int := (t.day * 86400 + t.second) * Span.nanosPerSecond + t.nano

structure Regular (t : Instant) : Prop where
  proper : t.Proper
  nano : t.nano < billion

instance (t : Instant) : Decidable t.Regular :=
  decidable_of_iff (t.Proper ∧ t.nano < billion)
    ⟨fun ⟨proper, nano⟩ => ⟨proper, nano⟩, fun regular => ⟨regular.proper, regular.nano⟩⟩

theorem Regular.lt_iff (first : a.Regular) (second : b.Regular) : a < b ↔ a.tick < b.tick := by
  obtain ⟨⟨_, _, secondA, _, _⟩, nanoA⟩ := first
  obtain ⟨⟨_, _, secondB, _, _⟩, nanoB⟩ := second
  rw [Instant.lt_iff]
  simp only [tick, Span.nanosPerSecond, billion] at *
  omega

theorem Regular.since (first : a.Regular) (second : b.Regular) :
    (b.since a).nanos = b.tick - a.tick := by
  simp only [Instant.since, leapSeconds_eq_zero second.nano first.nano, tick, Span.nanosPerSecond]
  omega

theorem Regular.later (first : a.Regular) (second : b.Regular) :
    (a.later b).Regular ∧ (a.later b).tick = max a.tick b.tick := by
  rcases later_eq a b with ⟨le, same⟩ | ⟨lt, same⟩
  · rw [same]
    have below := mt (second.lt_iff first).mpr le
    exact ⟨second, by omega⟩
  · rw [same]
    have above := (second.lt_iff first).mp lt
    exact ⟨first, by omega⟩

/-! Going back. -/

/-- The second that an instant is in; a leap second counts as the next one. -/
def clock (t : Instant) : Int := t.day * 86400 + t.second + (if billion ≤ t.nano then 1 else 0)

def fraction (t : Instant) : Nat := if billion ≤ t.nano then t.nano - billion else t.nano

theorem back_zero (t : Instant) : t.back 0 = some t := rfl

theorem back_of_pos {w : Nat} (positive : 0 < w) (t : Instant) :
    t.back w = if firstDay * 86400 ≤ t.clock - w then
      some ⟨(t.clock - w) / 86400, ((t.clock - w) % 86400).toNat, t.fraction⟩ else none := by
  have second : (t.second : Int) + (if billion ≤ t.nano then 1 else 0) - w =
      t.clock - w - t.day * 86400 := by
    unfold clock
    omega
  have day : t.day + (t.clock - w - t.day * 86400) / 86400 = (t.clock - w) / 86400 := by omega
  have clock : (t.clock - w - t.day * 86400) % 86400 = (t.clock - w) % 86400 := by omega
  have range : firstDay ≤ (t.clock - w) / 86400 ↔ firstDay * 86400 ≤ t.clock - w := by omega
  unfold back
  rw [if_neg (Nat.ne_of_gt positive)]
  simp only [second, day, clock, range, fraction]

theorem earliest_le (first : firstDay ≤ a.day) : earliest ≤ a := by
  rw [le_iff]
  simp only [earliest]
  omega

theorem back_le (range : a.InRange) {w : Nat} (positive : 0 < w) :
    (a.back w).getD earliest ≤ a := by
  obtain ⟨first, _, second, _⟩ := range
  rw [back_of_pos positive]
  split
  · rw [Option.getD_some, le_iff]
    simp only [clock, fraction]
    split <;> omega
  · exact earliest_le first

/-- Going back further never ends later, not even from inside a leap second. -/
theorem back_antitone (range : a.InRange) {w w' : Nat} (more : w ≤ w') :
    (a.back w').getD earliest ≤ (a.back w).getD earliest := by
  by_cases none : w = 0
  · subst none
    by_cases none' : w' = 0
    · subst none'
      rw [le_iff]
      omega
    · exact back_le range (by omega)
  rw [back_of_pos (by omega : 0 < w'), back_of_pos (by omega : 0 < w)]
  by_cases reached : firstDay * 86400 ≤ a.clock - w'
  · have reached' : firstDay * 86400 ≤ a.clock - w := by omega
    rw [if_pos reached, if_pos reached', Option.getD_some, Option.getD_some, le_iff]
    simp only
    omega
  · rw [if_neg reached]
    split
    · apply earliest_le
      show firstDay ≤ (a.clock - w) / 86400
      omega
    · rw [le_iff]
      omega

example : (⟨21915, 86399, 1500000000⟩ : Instant).back 1 = some ⟨21915, 86399, 500000000⟩ := by
  decide

theorem tick_eq (t : Instant) : t.tick = t.clock * Span.nanosPerSecond + t.fraction := by
  unfold tick clock fraction billion Span.nanosPerSecond
  by_cases leap : 1000000000 ≤ t.nano
  · rw [if_pos leap, if_pos leap]
    omega
  · rw [if_neg leap, if_neg leap]
    omega

theorem fraction_lt (range : a.InRange) : a.fraction < billion := by
  have nano := range.2.2.2
  unfold fraction
  split <;> omega

theorem earliest_tick_le (range : a.InRange) : earliest.tick ≤ a.tick := by
  have first := range.1
  simp only [tick, earliest, Span.nanosPerSecond]
  omega

/-- A leap second counts as the next one, so going back from inside it is exact too. -/
theorem tick_back (range : a.InRange) (w : Nat) :
    ((a.back w).getD earliest).tick = max earliest.tick (a.tick - w * Span.nanosPerSecond) := by
  by_cases none : w = 0
  · subst none
    have first := earliest_tick_le range
    rw [back_zero, Option.getD_some]
    omega
  have short := fraction_lt range
  rw [back_of_pos (by omega), tick_eq a]
  unfold billion at short
  split
  · rw [Option.getD_some]
    simp only [tick, earliest, Span.nanosPerSecond]
    omega
  · rw [Option.getD_none]
    simp only [tick, earliest, Span.nanosPerSecond]
    omega

theorem regular_earliest : earliest.Regular := by decide

theorem regular_back (range : a.InRange) {w : Nat} (positive : 0 < w) :
    ((a.back w).getD earliest).Regular := by
  have short := fraction_lt range
  obtain ⟨first, last, second, _⟩ := range
  rw [back_of_pos positive]
  split
  · rw [Option.getD_some]
    have day : (a.clock - w) / 86400 ≤ a.day := by
      simp only [clock]
      split <;> omega
    refine ⟨⟨?_, Int.le_trans day last, ?_, ?_, ?_⟩, short⟩
    · show firstDay ≤ (a.clock - w) / 86400
      omega
    · show ((a.clock - w) % 86400).toNat < 86400
      omega
    · show a.fraction < 2 * billion
      omega
    · show billion ≤ a.fraction → _
      omega
  · exact regular_earliest

/-- At times outside leap seconds, a date has not come back to yet where more than those seconds are
left. -/
theorem Regular.lt_back_iff (regular : a.Regular) (range : b.InRange) {w : Nat}
    (positive : 0 < w) :
    a < (b.back w).getD earliest ↔ a.tick + w * Span.nanosPerSecond < b.tick := by
  have first := earliest_tick_le regular.proper.inRange
  rw [regular.lt_iff (regular_back range positive), tick_back range]
  omega

end Admission.Time.Instant
