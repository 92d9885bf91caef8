import Admission.Proofs.Filter.LengthLimit
import Admission.Proofs.Filter.Words
/-!
What denials of the limit on lengths tell. Lengths are compared to the nanosecond and told in whole
seconds, so a length that is less than a second above the maximum is told as the maximum itself.
-/

namespace Admission

open Time (Instant Span)

namespace Time.Span

theorem wholeSeconds_ofSeconds (n : Nat) : (ofSeconds n).wholeSeconds = n :=
  Int.mul_tdiv_cancel n (by decide)

variable {n : Int} {s : Span}

theorem ofSeconds_lt_iff : ofSeconds n < s ↔ n * 1000000000 < s.nanos := Iff.rfl

theorem ofSeconds_le_iff : ofSeconds n ≤ s ↔ n * 1000000000 ≤ s.nanos := Iff.rfl

theorem lt_ofSeconds_iff : s < ofSeconds n ↔ s.nanos < n * 1000000000 := Iff.rfl

theorem exists_wholeSeconds (positive : 0 ≤ s.nanos) :
    ∃ n : Nat, s.wholeSeconds = n ∧ ofSeconds n ≤ s ∧ s < ofSeconds (n + 1) := by
  have cut : s.wholeSeconds = s.nanos / 1000000000 := Int.tdiv_eq_ediv_of_nonneg positive
  refine ⟨s.wholeSeconds.toNat, ?_⟩
  rw [ofSeconds_le_iff, lt_ofSeconds_iff, cut]
  omega

end Time.Span

namespace LengthLimit

variable (l : LengthLimit)

def lengthReason (seconds limit : Nat) (words limitWords : String) : String :=
  "lease length of " ++ toString seconds ++ " seconds (" ++ words ++
    ") exceeds the maximum lease length of " ++ toString limit ++ " seconds (" ++ limitWords ++ ")"

/-- A reason with two numbers of seconds and the same in words: the whole seconds of a length, and
the maximum. They are equal if the length is less than a second above the maximum. -/
def Shows (length : Span) (reason : String) : Prop :=
  ∃ (n : Nat) (words limitWords : String),
    reason = lengthReason n l.maxLength words limitWords ∧
    seconds? words = some n ∧ seconds? limitWords = some l.maxLength ∧
    Span.ofSeconds n ≤ length ∧ length < Span.ofSeconds (n + 1) ∧ l.maxLength ≤ n ∧
    (n = l.maxLength ↔ length < Span.ofSeconds (l.maxLength + 1))

theorem tooLong_shows {length : Span} (long : Span.ofSeconds l.maxLength < length) :
    ∃ reason, l.tooLong length = .deny filterName reason ∧ l.Shows length reason := by
  have above := Span.ofSeconds_lt_iff.mp long
  obtain ⟨n, whole, least, most⟩ := Span.exists_wholeSeconds (s := length) (by omega)
  have atLeast := Span.ofSeconds_le_iff.mp least
  have below := Span.lt_ofSeconds_iff.mp most
  have limit := Span.wholeSeconds_ofSeconds l.maxLength
  refine ⟨_, rfl, n, human length, human (Span.ofSeconds l.maxLength), ?text, ?words, ?limitWords,
    least, most, by omega, ?equal⟩
  case text =>
    rw [whole, limit]
    rfl
  case words => rw [seconds?_human, whole, Int.toNat_natCast]
  case limitWords => rw [seconds?_human, limit, Int.toNat_natCast]
  case equal =>
    rw [Span.lt_ofSeconds_iff]
    omega

section Denials

variable {filter reason : String} {current lease : Lease} {now : Instant}

theorem checkLength_shows {start finish : Instant}
    (denied : l.checkLength start finish = .deny filter reason) :
    filter = filterName ∧ l.Shows (finish.since start) reason := by
  unfold checkLength malformed at denied
  by_cases empty : finish ≤ start
  · rw [if_pos empty] at denied
    cases denied
  rw [if_neg empty] at denied
  by_cases long : Span.ofSeconds l.maxLength < finish.since start
  · obtain ⟨text, same, shows⟩ := l.tooLong_shows long
    simp only [long, if_true, same] at denied
    cases denied
    exact ⟨rfl, shows⟩
  · simp only [long, if_false] at denied
    cases denied

theorem checkExtension_shows {window : Nat}
    (denied : l.checkExtension now window current lease = .deny filter reason) :
    now < opensAt window current ∧ tooEarly window current = .deny filter reason ∨
      filter = filterName ∧
        l.Shows (lease.endDate.since (current.endDate.later lease.startDate)) reason := by
  unfold checkExtension at denied
  by_cases early : now < opensAt window current
  · rw [if_pos early] at denied
    exact .inl ⟨early, denied⟩
  · rw [if_neg early] at denied
    exact .inr (l.checkLength_shows denied)

/-- Where an update that is too long as a whole is measured from: the later of its start and the
current end, if it moves that end out and may extend the lease, or else its start. -/
def measuredFrom (current lease : Lease) : Instant :=
  if l.extensionWindow.isSome ∧ current.endDate < lease.endDate then
    current.endDate.later lease.startDate
  else lease.startDate

theorem checkWindows_shows
    (denied : l.checkWindows now (some current) lease = .deny filter reason) :
    (∃ window, l.extensionWindow = some window ∧ now < opensAt window current ∧
        tooEarly window current = .deny filter reason) ∨
      filter = filterName ∧
        l.Shows (lease.endDate.since (l.measuredFrom current lease)) reason := by
  unfold checkWindows at denied
  unfold measuredFrom
  cases set : l.extensionWindow with
  | none =>
    rw [set] at denied
    exact .inr (by simpa using l.checkLength_shows denied)
  | some window =>
    simp only [set] at denied
    by_cases moved : current.endDate < lease.endDate
    · by_cases long : isDeny (l.checkLength lease.startDate lease.endDate)
      · rw [if_pos ⟨moved, long⟩] at denied
        rcases l.checkExtension_shows denied with ⟨early, same⟩ | ⟨named, shows⟩
        · exact .inl ⟨window, rfl, early, same⟩
        · exact .inr ⟨named, by simpa [moved] using shows⟩
      · rw [if_neg fun both => long both.2] at denied
        rw [denied] at long
        exact absurd rfl long
    · rw [if_neg fun both => moved both.1] at denied
      exact .inr (by simpa [moved] using l.checkLength_shows denied)

theorem decide_denied {ctx : Context} {current? : Option Lease}
    (denied : l.decide now ctx current? lease = .deny filter reason) :
    l.checkWindows now current? lease = .deny filter reason := by
  unfold decide malformed at denied
  by_cases empty : lease.endDate ≤ lease.startDate
  · rw [if_pos empty] at denied
    cases denied
  rw [if_neg empty] at denied
  by_cases exempt : l.isExempt ctx = true
  · simp only [exempt, if_true] at denied
    cases denied
  · simpa [exempt] using denied

end Denials

/-- The length that a change is denied for, if it is. -/
def measured? : Change → Option Span
  | .create lease => some (lease.endDate.since lease.startDate)
  | .update current lease => some (lease.endDate.since (l.measuredFrom current lease))
  | .onEnd _ => none

/-- A denial is told as an extension that is asked for too early, or as a length above the maximum.
Then the words say the same as the numbers, but the number of the length is above the one of the
maximum only if the length is a whole second above it. -/
theorem denial_told {σ : Type} (s : Setting) (deadline : Option Nat) (j : Journal σ)
    (ctx : Context) (change : Change) {filter reason : String}
    (denied : ((l.filter.call ctx change).run s deadline j).1 =
      some (.decided (.deny filter reason))) :
    (∃ current lease window, change = .update current lease ∧
        l.extensionWindow = some window ∧ s.now < opensAt window current ∧
        tooEarly window current = .deny filter reason) ∨
      filter = filterName ∧ ∃ length, l.measured? change = some length ∧ l.Shows length reason := by
  cases change with
  | create lease =>
    have judged := (l.run_check_iff s deadline j ctx none lease _).mp denied
    obtain ⟨named, shows⟩ := l.checkLength_shows (l.decide_denied judged)
    exact .inr ⟨named, _, rfl, shows⟩
  | update current lease =>
    have judged := (l.run_check_iff s deadline j ctx (some current) lease _).mp denied
    rcases l.checkWindows_shows (l.decide_denied judged) with
      ⟨window, set, early, same⟩ | ⟨named, shows⟩
    · exact .inl ⟨current, lease, window, rfl, set, early, same⟩
    · exact .inr ⟨named, _, rfl, shows⟩
  | onEnd current => cases denied

-- Half a second above a maximum of ten seconds.
theorem denial_told_half_second :
    let l : LengthLimit := { maxLength := 10 }
    let s : Setting := ⟨⟨21915, 0, 0⟩, [], Service.absent, .zero⟩
    let ctx : Context := ⟨"u1", "p1", "http://keystone.local/v3", "RegionOne"⟩
    let lease : Lease := { startDate := ⟨21915, 0, 0⟩, endDate := ⟨21915, 10, 500000000⟩ }
    let reason := lengthReason 10 10 "10 seconds" "10 seconds"
    ((l.filter.call ctx (.create lease)).run s none ({ memory := () } : Journal Unit)).1 =
        some (.decided (.deny filterName reason)) ∧
      l.Shows ⟨10500000000⟩ reason := by
  intro l s ctx lease reason
  have denied := (l.run_check_iff s none ({ memory := () } : Journal Unit) ctx none lease
    (.deny filterName reason)).mpr (by decide)
  have measured : l.measured? (.create lease) = some ⟨10500000000⟩ := by decide
  rcases l.denial_told s none _ ctx (.create lease) denied with
    ⟨_, _, _, other, _⟩ | ⟨_, length, same, shows⟩
  · cases other
  · rw [measured] at same
    cases same
    exact ⟨denied, shows⟩

end LengthLimit

end Admission
