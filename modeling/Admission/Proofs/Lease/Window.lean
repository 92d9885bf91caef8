import Admission.Hook
import Admission.Proofs.Filter.LengthLimit
import Admission.Proofs.Lease.Violation
import Admission.Proofs.Time.Instant
import Admission.Proofs.Time.Wire
/-!
The order of a window's dates and its computed length. A lease is malformed by the order and
measured by the length. The main statement says exactly when the two judge a window differently,
and what becomes of a lease whose length is not positive.
-/

namespace Admission.Lease

open Time (Instant)

/-- The dates are ones that readers give. -/
structure Dated (l : Lease) : Prop where
  startDate : l.startDate.Proper
  endDate : l.endDate.Proper

instance (l : Lease) : Decidable l.Dated :=
  decidable_of_iff (l.startDate.Proper ∧ l.endDate.Proper)
    ⟨fun ⟨first, second⟩ => ⟨first, second⟩, fun dated => ⟨dated.startDate, dated.endDate⟩⟩

theorem dated_iff (l : Lease) :
    l.Dated ↔ (∃ s, Instant.parse s = .ok l.startDate) ∧ ∃ s, Instant.parse s = .ok l.endDate := by
  constructor
  · intro dated
    exact ⟨⟨_, Instant.parse_wire dated.startDate⟩, ⟨_, Instant.parse_wire dated.endDate⟩⟩
  · rintro ⟨⟨_, start⟩, _, finish⟩
    exact ⟨Instant.proper_of_parse start, Instant.proper_of_parse finish⟩

theorem violation?_window_iff (l : Lease) :
    l.violation? = some (.window l.endDate l.startDate) ↔ l.endDate ≤ l.startDate := by
  rw [violation?_eq_some_iff]
  constructor
  · rintro (empty | ⟨_, first⟩)
    · exact empty
    · cases first
  · exact .window

/-- The window is in order, but not longer than nothing: it starts inside the leap second that ends
a day, and ends in the next second no later in it. -/
def Collapsed (l : Lease) : Prop :=
  l.startDate.AcrossMidnight l.endDate ∧ l.endDate.nano + Instant.billion ≤ l.startDate.nano

instance (l : Lease) : Decidable l.Collapsed := by
  unfold Collapsed; infer_instance

/-- The window is not in order, but longer than nothing: it ends inside the leap second that ends
a day, and starts in the next second earlier in it. -/
def Inverted (l : Lease) : Prop :=
  l.endDate.AcrossMidnight l.startDate ∧ l.startDate.nano + Instant.billion < l.endDate.nano

instance (l : Lease) : Decidable l.Inverted := by
  unfold Inverted; infer_instance

theorem collapsed_iff {l : Lease} (dated : l.Dated) :
    l.Collapsed ↔ l.startDate < l.endDate ∧ l.duration.nanos ≤ 0 := by
  unfold duration
  constructor
  · rintro ⟨across, fraction⟩
    rw [across.since dated.endDate]
    exact ⟨across.lt, by omega⟩
  · rintro ⟨before, short⟩
    have across := Instant.acrossMidnight_of_since dated.startDate dated.endDate before short
    rw [across.since dated.endDate] at short
    exact ⟨across, by omega⟩

theorem inverted_iff {l : Lease} (dated : l.Dated) :
    l.Inverted ↔ l.endDate ≤ l.startDate ∧ 0 < l.duration.nanos := by
  unfold duration
  rw [Instant.since_swap]
  constructor
  · rintro ⟨across, fraction⟩
    rw [across.since dated.startDate]
    exact ⟨Instant.le_of_lt across.lt, by omega⟩
  · rintro ⟨empty, long⟩
    have before : l.endDate < l.startDate := by
      rcases Instant.lt_or_eq_of_le empty with before | same
      · exact before
      · rw [same, Instant.since_self] at long
        omega
    have across := Instant.acrossMidnight_of_since dated.endDate dated.startDate before (by omega)
    rw [across.since dated.startDate] at long
    exact ⟨across, by omega⟩

/-- A window that is not in order can only seem longer than nothing by part of a leap second. -/
theorem duration_lt_of_empty {l : Lease} (dated : l.Dated) (empty : l.endDate ≤ l.startDate) :
    l.duration.nanos < Time.Span.nanosPerSecond := by
  by_cases long : 0 < l.duration.nanos
  · obtain ⟨across, _⟩ := (inverted_iff dated).mpr ⟨empty, long⟩
    have nano := dated.endDate.2.2.2.1
    have back := across.since dated.startDate
    rw [duration, Instant.since_swap, back, Time.Span.nanosPerSecond]
    unfold Instant.billion at *
    omega
  · unfold Time.Span.nanosPerSecond
    omega

/-- Every limit on lengths answers every create and update of the lease so, whoever asks. -/
def Answered (l : Lease) (answer : Decision → Prop) : Prop :=
  ∀ (limit : LengthLimit) (σ : Type) (s : Setting) (deadline : Option Nat) (j : Journal σ)
    (ctx : Context) (current : Lease), ∃ created updated,
      ((limit.filter.call ctx (.create l)).run s deadline j).1 = some (.decided created) ∧
      ((limit.filter.call ctx (.update current l)).run s deadline j).1 =
        some (.decided updated) ∧ answer created ∧ answer updated

theorem answered {l : Lease} {answer : Decision → Prop}
    (create : ∀ limit now ctx, answer (LengthLimit.decide limit now ctx none l))
    (update : ∀ limit now ctx current, answer (LengthLimit.decide limit now ctx (some current) l)) :
    l.Answered answer := by
  intro limit σ s deadline j ctx current
  exact ⟨_, _, limit.run_check s deadline j ctx none l,
    limit.run_check s deadline j ctx (some current) l, create limit s.now ctx,
    update limit s.now ctx current⟩

theorem answered_error {l : Lease} (empty : l.endDate ≤ l.startDate) :
    l.Answered fun d => ∃ reason, d = .error LengthLimit.filterName reason := by
  apply answered
  · intro limit now ctx
    exact (limit.decide_create_follows now ctx l).error_iff.mpr empty
  · intro limit now ctx current
    exact (limit.decide_update_follows now ctx current l).error_iff.mpr empty

theorem fits_of_collapsed {l : Lease} (dated : l.Dated) (collapsed : l.Collapsed)
    (limit : LengthLimit) : limit.Fits l.startDate l.endDate := by
  have short : (l.endDate.since l.startDate).nanos ≤ 0 := ((collapsed_iff dated).mp collapsed).2
  show (l.endDate.since l.startDate).nanos ≤ limit.maxLength * Time.Span.nanosPerSecond
  unfold Time.Span.nanosPerSecond
  omega

theorem answered_allow {l : Lease} (dated : l.Dated) (collapsed : l.Collapsed) :
    l.Answered (· = .allow) := by
  have sound : ¬ l.endDate ≤ l.startDate := not_not_intro ((collapsed_iff dated).mp collapsed).1
  apply answered
  · intro limit now ctx
    have fits := fits_of_collapsed dated collapsed limit
    exact (limit.decide_create_follows now ctx l).allow_iff.mpr ⟨sound, .inr fits⟩
  · intro limit now ctx current
    have fits := fits_of_collapsed dated collapsed limit
    exact (limit.decide_update_follows now ctx current l).allow_iff.mpr ⟨sound, .inr (.inl fits)⟩

theorem change_invalid {l : Lease} {change : Change} (member : l ∈ change.snapshots)
    (empty : l.endDate ≤ l.startDate) :
    ∃ v : Violation, change.validate = .error (.invalidRequest v.message) := by
  cases found : change.firstViolation? with
  | none =>
    have valid := List.findSome?_eq_none_iff.mp found l member
    rw [(violation?_window_iff l).mpr empty] at valid
    cases valid
  | some v =>
    refine ⟨v, ?_⟩
    unfold Change.validate
    rw [found]

/-- The order of a window and its length judge it alike unless it is collapsed or inverted. A lease
whose length is not positive is an error to every limit and spoils every change it is part of,
unless it is collapsed: then its window is passed, and every limit allows it. -/
theorem window_judged {l : Lease} (dated : l.Dated) :
    ((l.violation? = some (.window l.endDate l.startDate) ↔ l.duration.nanos ≤ 0) ↔
      ¬ l.Collapsed ∧ ¬ l.Inverted) ∧
    (l.duration.nanos ≤ 0 → ¬ l.Collapsed →
      l.Answered (fun d => ∃ reason, d = .error LengthLimit.filterName reason) ∧
      ∀ change : Change, l ∈ change.snapshots →
        ∃ v : Violation, change.validate = .error (.invalidRequest v.message)) ∧
    (l.Collapsed → l.duration.nanos ≤ 0 ∧ l.Answered (· = .allow) ∧
      l.violation? = scanReservations 0 [] l.reservations) := by
  have collapsed := collapsed_iff dated
  have inverted := inverted_iff dated
  refine ⟨?judged, ?refused, ?passed⟩
  case judged =>
    rw [violation?_window_iff, collapsed, inverted]
    by_cases empty : l.endDate ≤ l.startDate
    · have behind : ¬ l.startDate < l.endDate := empty
      simp only [empty, behind, true_iff, false_and, not_false_eq_true, true_and, Int.not_lt]
    · have before : l.startDate < l.endDate := Decidable.not_not.mp empty
      simp only [empty, before, false_iff, false_and, not_false_eq_true, true_and, and_true]
  case refused =>
    intro short sound
    have empty : l.endDate ≤ l.startDate := fun before => sound (collapsed.mpr ⟨before, short⟩)
    exact ⟨answered_error empty, fun change member => change_invalid member empty⟩
  case passed =>
    intro slipped
    obtain ⟨before, short⟩ := collapsed.mp slipped
    have sound : ¬ l.endDate ≤ l.startDate := not_not_intro before
    exact ⟨short, answered_allow dated slipped, if_neg sound⟩

-- Half a second into a leap second, up to the midnight behind it.
theorem window_judged_leap_second :
    let l : Lease := { startDate := ⟨21915, 86399, 1500000000⟩, endDate := ⟨21916, 0, 0⟩ }
    Instant.parse "2030-01-01T23:59:60.5Z" = .ok l.startDate ∧
      Instant.parse "2030-01-02T00:00:00Z" = .ok l.endDate ∧ l.Dated ∧
      l.duration.nanos = -500000000 ∧ l.validate = .ok () ∧ l.Answered (· = .allow) := by
  intro l
  have start : Instant.parse "2030-01-01T23:59:60.5Z" = .ok l.startDate := rfl
  have finish : Instant.parse "2030-01-02T00:00:00Z" = .ok l.endDate := rfl
  have dated : l.Dated := l.dated_iff.mpr ⟨⟨_, start⟩, ⟨_, finish⟩⟩
  have collapsed : l.Collapsed := by decide
  obtain ⟨_, _, passed⟩ := window_judged dated
  obtain ⟨_, allowed, window⟩ := passed collapsed
  refine ⟨start, finish, dated, by decide, ?_, allowed⟩
  unfold validate
  rw [window]
  rfl

end Admission.Lease
