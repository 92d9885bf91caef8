import Mathlib.Data.Int.Interval
import Admission.Proofs.Filter.LengthLimit
import Admission.Proofs.Time.Instant
/-!
Updates under an extension window: what time an allowed update can add to a lease, and from when on
one that is too long as a whole can be allowed. Added time is counted in nanoseconds, on both sides
of the current window.
-/

namespace Admission

open Time (Instant Span)

namespace Lease

/-- A window that is not empty, with dates outside leap seconds. -/
structure Regular (l : Lease) : Prop where
  startDate : l.startDate.Regular
  endDate : l.endDate.Regular
  window : l.startDate < l.endDate

instance (l : Lease) : Decidable l.Regular :=
  decidable_of_iff (l.startDate.Regular ∧ l.endDate.Regular ∧ l.startDate < l.endDate)
    ⟨fun ⟨first, second, window⟩ => ⟨first, second, window⟩,
      fun regular => ⟨regular.startDate, regular.endDate, regular.window⟩⟩

/-- The nanoseconds of a window, without the one it ends at. -/
def ticks (l : Lease) : Finset Int :=
  (Finset.range (l.endDate.tick - l.startDate.tick).toNat).image fun n : Nat => l.startDate.tick + n

def added (current lease : Lease) : Finset Int := lease.ticks \ current.ticks

def addedBefore (current lease : Lease) : Finset Int :=
  lease.ticks.filter (· < current.startDate.tick)

def addedAfter (current lease : Lease) : Finset Int :=
  lease.ticks.filter (current.endDate.tick ≤ ·)

theorem mem_ticks {l : Lease} {n : Int} :
    n ∈ l.ticks ↔ l.startDate.tick ≤ n ∧ n < l.endDate.tick := by
  simp only [ticks, Finset.mem_image, Finset.mem_range]
  constructor
  · rintro ⟨k, small, rfl⟩
    omega
  · rintro ⟨low, high⟩
    exact ⟨(n - l.startDate.tick).toNat, by omega, by omega⟩

theorem card_ticks (l : Lease) : l.ticks.card = (l.endDate.tick - l.startDate.tick).toNat := by
  have same : l.ticks = Finset.Ico l.startDate.tick l.endDate.tick := by
    ext n
    rw [mem_ticks, Finset.mem_Ico]
  rw [same, Int.card_Ico]

theorem card_addedBefore (current lease : Lease) :
    (current.addedBefore lease).card =
      (min lease.endDate.tick current.startDate.tick - lease.startDate.tick).toNat := by
  have same : current.addedBefore lease =
      Finset.Ico lease.startDate.tick (min lease.endDate.tick current.startDate.tick) := by
    ext n
    rw [addedBefore, Finset.mem_filter, mem_ticks, Finset.mem_Ico]
    omega
  rw [same, Int.card_Ico]

theorem card_addedAfter (current lease : Lease) :
    (current.addedAfter lease).card =
      (lease.endDate.tick - max lease.startDate.tick current.endDate.tick).toNat := by
  have same : current.addedAfter lease =
      Finset.Ico (max lease.startDate.tick current.endDate.tick) lease.endDate.tick := by
    ext n
    rw [addedAfter, Finset.mem_filter, mem_ticks, Finset.mem_Ico]
    omega
  rw [same, Int.card_Ico]

theorem added_eq {current : Lease} (held : current.Regular) (lease : Lease) :
    current.added lease = current.addedBefore lease ∪ current.addedAfter lease := by
  have window := (held.startDate.lt_iff held.endDate).mp held.window
  ext n
  simp only [added, addedBefore, addedAfter, Finset.mem_sdiff, Finset.mem_union,
    Finset.mem_filter, mem_ticks]
  omega

theorem card_added {current : Lease} (held : current.Regular) (lease : Lease) :
    (current.added lease).card =
      (current.addedBefore lease).card + (current.addedAfter lease).card := by
  have window := (held.startDate.lt_iff held.endDate).mp held.window
  rw [added_eq held]
  apply Finset.card_union_of_disjoint
  rw [Finset.disjoint_left]
  intro n before after
  simp only [addedBefore, addedAfter, Finset.mem_filter] at before after
  omega

theorem addedBefore_eq_empty {current lease : Lease}
    (kept : current.startDate.tick ≤ lease.startDate.tick) : current.addedBefore lease = ∅ := by
  rw [← Finset.card_eq_zero, card_addedBefore]
  omega

theorem card_added_le (current lease : Lease) :
    (current.added lease).card ≤ lease.ticks.card :=
  Finset.card_le_card Finset.sdiff_subset

end Lease

namespace LengthLimit

variable (l : LengthLimit)

theorem fits_iff {start finish : Instant} (first : start.Regular) (second : finish.Regular) :
    l.Fits start finish ↔ finish.tick - start.tick ≤ l.maxLength * Span.nanosPerSecond := by
  rw [← first.since second]
  rfl

section Added

variable {current lease : Lease}

theorem card_ticks_of_fits (wanted : lease.Regular) (fits : l.Fits lease.startDate lease.endDate) :
    lease.ticks.card ≤ l.maxLength * Instant.billion := by
  rw [l.fits_iff wanted.startDate wanted.endDate, Span.nanosPerSecond] at fits
  rw [Lease.card_ticks, Instant.billion]
  omega

theorem card_addedAfter_of_extends {now : Instant} (held : current.Regular)
    (wanted : lease.Regular) (extension : l.Extends now current lease) :
    (current.addedAfter lease).card ≤ l.maxLength * Instant.billion := by
  obtain ⟨_, _, _, _, fits⟩ := extension
  obtain ⟨measured, start⟩ := held.endDate.later wanted.startDate
  rw [l.fits_iff measured wanted.endDate, start, Span.nanosPerSecond] at fits
  rw [Lease.card_addedAfter, Instant.billion]
  omega

end Added

theorem fits_or_extends {σ : Type} {s : Setting} {deadline : Option Nat} {j : Journal σ}
    {ctx : Context} {current lease : Lease} (asked : ctx.projectId ∉ l.exemptProjects)
    (allowed : ((l.filter.call ctx (.update current lease)).run s deadline j).1 =
      some (.decided .allow)) :
    l.Fits lease.startDate lease.endDate ∨ l.Extends s.now current lease := by
  have allow := (l.run_check_iff s deadline j ctx (some current) lease .allow).mp allowed
  have given := (l.decide_update_follows s.now ctx current lease).allow_iff.mp allow
  exact given.2.resolve_left asked

/-- An allowed update adds at most the maximum length behind the current end. It adds no more than
that on both sides together, unless it is too long as a whole and starts before the current
lease: the time before the current start is then not measured. -/
theorem update_added {σ : Type} (s : Setting) (deadline : Option Nat) (j : Journal σ)
    {ctx : Context} {current lease : Lease} (asked : ctx.projectId ∉ l.exemptProjects)
    (held : current.Regular) (wanted : lease.Regular)
    (allowed : ((l.filter.call ctx (.update current lease)).run s deadline j).1 =
      some (.decided .allow)) :
    (current.addedAfter lease).card ≤ l.maxLength * Instant.billion ∧
    (current.startDate ≤ lease.startDate ∨ l.Fits lease.startDate lease.endDate →
      (current.added lease).card ≤ l.maxLength * Instant.billion) ∧
    lease.ticks.card ≤ current.ticks.card + (current.addedBefore lease).card +
      l.maxLength * Instant.billion := by
  have whole (fits : l.Fits lease.startDate lease.endDate) :
      (current.added lease).card ≤ l.maxLength * Instant.billion :=
    (current.card_added_le lease).trans (l.card_ticks_of_fits wanted fits)
  have split := Lease.card_added held lease
  have after : (current.addedAfter lease).card ≤ l.maxLength * Instant.billion := by
    rcases l.fits_or_extends asked allowed with fits | extension
    · have both := whole fits
      omega
    · exact l.card_addedAfter_of_extends held wanted extension
  refine ⟨after, ?both, ?total⟩
  case both =>
    rintro (kept | fits)
    · have before := Lease.addedBefore_eq_empty
        (Int.not_lt.mp (mt (wanted.startDate.lt_iff held.startDate).mpr kept))
      rw [split, before, Finset.card_empty]
      omega
    · exact whole fits
  case total =>
    have total : lease.ticks.card ≤ (current.added lease).card + current.ticks.card :=
      Finset.card_le_card_sdiff_add_card
    omega

theorem update_added_extension :
    let l : LengthLimit := { maxLength := 10, extensionWindow := some 100 }
    let s : Setting := ⟨⟨21915, 20, 0⟩, [], Service.absent, .zero⟩
    let ctx : Context := ⟨"u1", "p1", "http://keystone.local/v3", "RegionOne"⟩
    let current : Lease := { startDate := ⟨21915, 10, 0⟩, endDate := ⟨21915, 20, 0⟩ }
    let lease : Lease := { startDate := ⟨21915, 10, 0⟩, endDate := ⟨21915, 30, 0⟩ }
    ctx.projectId ∉ l.exemptProjects ∧ current.Regular ∧ lease.Regular ∧
      ((l.filter.call ctx (.update current lease)).run s none ({ memory := () } : Journal Unit)).1 =
        some (.decided .allow) ∧
      (current.added lease).card ≤ l.maxLength * Instant.billion := by
  intro l s ctx current lease
  have asked : ctx.projectId ∉ l.exemptProjects := by decide
  have held : current.Regular := by decide
  have wanted : lease.Regular := by decide
  have allowed := (l.run_check_iff s none ({ memory := () } : Journal Unit) ctx (some current) lease
    .allow).mpr (by decide)
  have added := l.update_added s none _ asked held wanted allowed
  exact ⟨asked, held, wanted, allowed, added.2.1 (.inl (by decide))⟩

-- Five seconds more at the end, and ten more at the start that nobody measures.
theorem update_added_early_start :
    let l : LengthLimit := { maxLength := 10, extensionWindow := some 100 }
    let s : Setting := ⟨⟨21915, 20, 0⟩, [], Service.absent, .zero⟩
    let ctx : Context := ⟨"u1", "p1", "http://keystone.local/v3", "RegionOne"⟩
    let current : Lease := { startDate := ⟨21915, 10, 0⟩, endDate := ⟨21915, 20, 0⟩ }
    let lease : Lease := { startDate := ⟨21915, 0, 0⟩, endDate := ⟨21915, 25, 0⟩ }
    ctx.projectId ∉ l.exemptProjects ∧ current.Regular ∧ lease.Regular ∧
      ((l.filter.call ctx (.update current lease)).run s none ({ memory := () } : Journal Unit)).1 =
        some (.decided .allow) ∧
      ¬ (current.added lease).card ≤ l.maxLength * Instant.billion := by
  intro l s ctx current lease
  have held : current.Regular := by decide
  have wanted : lease.Regular := by decide
  refine ⟨by decide, held, wanted, ?allowed, ?added⟩
  case allowed =>
    exact (l.run_check_iff s none _ ctx (some current) lease .allow).mpr (by decide)
  case added =>
    rw [Lease.card_added held, Lease.card_addedBefore, Lease.card_addedAfter]
    decide

/-! From when on. -/

section Opening

variable {ctx : Context} {current lease : Lease} {window : Nat}

section Long

variable (set : l.extensionWindow = some window) (asked : ctx.projectId ∉ l.exemptProjects)
  (sound : ¬ lease.endDate ≤ lease.startDate) (long : ¬ l.Fits lease.startDate lease.endDate)

include set asked sound long

theorem decide_of_early {now : Instant} (early : now < opensAt window current) :
    ∃ reason, l.decide now ctx (some current) lease = .deny filterName reason := by
  apply (l.decide_update_follows now ctx current lease).deny_iff.mpr
  refine ⟨sound, asked, ?_⟩
  rintro (fits | ⟨window', set', _, begun, _⟩)
  · exact long fits
  · cases set.symm.trans set'
    exact begun early

theorem decide_of_long (now : Instant) :
    l.decide now ctx (some current) lease =
      if current.endDate < lease.endDate then l.checkExtension now window current lease
      else l.checkLength lease.startDate lease.endDate := by
  have measured := l.checkLength_follows lease.startDate lease.endDate
  obtain ⟨reason, denied⟩ := measured.deny_iff.mpr ⟨sound, id, long⟩
  have exempt : l.isExempt ctx = false := by simpa [isExempt] using asked
  unfold decide checkWindows
  rw [malformed_of_not_le sound, denied, set]
  simp only [exempt, Bool.false_eq_true, if_false, isDeny, and_true]

theorem decide_of_open {now now' : Instant} (begun : opensAt window current ≤ now)
    (begun' : opensAt window current ≤ now') :
    l.decide now ctx (some current) lease = l.decide now' ctx (some current) lease := by
  rw [l.decide_of_long set asked sound long now, l.decide_of_long set asked sound long now']
  unfold checkExtension
  rw [if_neg begun, if_neg begun']

end Long

/-- An update that is too long as a whole is denied before the window opens, which is that many
seconds before the current end or with the first date. From then on it is answered as at the current
end, at every time before that end and after it. -/
theorem long_update_answered {σ : Type} (s : Setting) (deadline : Option Nat) (j : Journal σ)
    (set : l.extensionWindow = some window) (asked : ctx.projectId ∉ l.exemptProjects)
    (range : current.endDate.InRange) (ordered : lease.startDate < lease.endDate)
    (long : ¬ l.Fits lease.startDate lease.endDate) :
    let answer (now : Instant) :=
      ((l.filter.call ctx (.update current lease)).run { s with now := now } deadline j).1
    opensAt window current ≤ current.endDate ∧
    (opensAt window current).tick =
      max Instant.earliest.tick (current.endDate.tick - window * Span.nanosPerSecond) ∧
    (∀ now, now < opensAt window current →
      ∃ reason, answer now = some (.decided (.deny filterName reason))) ∧
    (∀ now, opensAt window current ≤ now → answer now = answer current.endDate) ∧
    (answer current.endDate = some (.decided .allow) ↔ current.endDate < lease.endDate ∧
      l.Fits (current.endDate.later lease.startDate) lease.endDate) := by
  intro answer
  have sound : ¬ lease.endDate ≤ lease.startDate := not_not_intro ordered
  have before : opensAt window current ≤ current.endDate :=
    Instant.back_antitone range (Nat.zero_le window)
  have answered (now : Instant) :
      answer now = some (.decided (l.decide now ctx (some current) lease)) :=
    l.run_check { s with now := now } deadline j ctx (some current) lease
  refine ⟨before, Instant.tick_back range window, ?early, ?late, ?atEnd⟩
  case early =>
    intro now early
    obtain ⟨reason, denied⟩ := l.decide_of_early set asked sound long early
    exact ⟨reason, by rw [answered, denied]⟩
  case late =>
    intro now begun
    rw [answered, answered, l.decide_of_open set asked sound long begun before]
  case atEnd =>
    have follows := l.decide_update_follows current.endDate ctx current lease
    rw [answered, Option.some.injEq, Ending.decided.injEq, follows.allow_iff]
    constructor
    · rintro ⟨_, listed | fits | ⟨_, _, moved, _, added⟩⟩
      · exact absurd listed asked
      · exact absurd fits long
      · exact ⟨moved, added⟩
    · rintro ⟨moved, added⟩
      exact ⟨sound, .inr (.inr ⟨window, set, moved, before, added⟩)⟩

-- The window opens five seconds before the current end; a year after that end it is still open.
theorem long_update_answered_late :
    let l : LengthLimit := { maxLength := 10, extensionWindow := some 5 }
    let s : Setting := ⟨⟨22280, 0, 0⟩, [], Service.absent, .zero⟩
    let ctx : Context := ⟨"u1", "p1", "http://keystone.local/v3", "RegionOne"⟩
    let current : Lease := { startDate := ⟨21915, 10, 0⟩, endDate := ⟨21915, 20, 0⟩ }
    let lease : Lease := { startDate := ⟨21915, 10, 0⟩, endDate := ⟨21915, 25, 0⟩ }
    ctx.projectId ∉ l.exemptProjects ∧ lease.startDate < lease.endDate ∧
      ¬ l.Fits lease.startDate lease.endDate ∧ current.endDate < s.now ∧
      ((l.filter.call ctx (.update current lease)).run s none ({ memory := () } : Journal Unit)).1 =
        some (.decided .allow) := by
  intro l s ctx current lease
  have asked : ctx.projectId ∉ l.exemptProjects := by decide
  have ordered : lease.startDate < lease.endDate := by decide
  have long : ¬ l.Fits lease.startDate lease.endDate := by decide
  have range : current.endDate.InRange := by decide
  obtain ⟨_, _, _, late, atEnd⟩ := l.long_update_answered s none
    ({ memory := () } : Journal Unit) rfl asked range ordered long
  refine ⟨asked, ordered, long, by decide, ?_⟩
  exact (late s.now (by decide)).trans (atEnd.mpr ⟨by decide, by decide⟩)

end Opening

end LengthLimit

end Admission
