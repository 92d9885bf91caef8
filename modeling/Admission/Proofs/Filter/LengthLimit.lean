import Admission.Filter.LengthLimit
import Admission.Proofs.Task
/-!
What the limit on lengths decides. A window that does not end after its start is an error, whoever
asks; an exempt project is then allowed, and of the others those whose time fits. An update fits by
its whole window, or by the time it adds while the current lease can be extended.
-/

namespace Admission.LengthLimit

open Time (Instant Span)

/-- What is no signed word is above the longest limit. -/
theorem clamped_eq (seconds : Nat) : clamped seconds = min seconds longestLimit := by
  unfold clamped signed? longestLimit UInt64.size
  split
  · rfl
  · rw [Option.getD_none]
    omega

variable (l : LengthLimit)

def Fits (start finish : Instant) : Prop := finish.since start ≤ Span.ofSeconds l.maxLength

instance (start finish : Instant) : Decidable (l.Fits start finish) :=
  inferInstanceAs (Decidable (finish.since start ≤ Span.ofSeconds l.maxLength))

/-- The end is moved out, it is not too early for that, and the time behind the current end fits. -/
def Extends (now : Instant) (current lease : Lease) : Prop :=
  ∃ window, l.extensionWindow = some window ∧ current.endDate < lease.endDate ∧
    (current.endDate.back window).getD Instant.earliest ≤ now ∧
    l.Fits (current.endDate.later lease.startDate) lease.endDate

/-- A decision by rules: an error where something is broken, and otherwise a denial of what is
neither exempt nor fits. -/
structure Follows (broken exempt fits : Prop) (d : Decision) : Prop where
  error_iff : (∃ reason, d = .error filterName reason) ↔ broken
  allow_iff : d = .allow ↔ ¬ broken ∧ (exempt ∨ fits)
  deny_iff : (∃ reason, d = .deny filterName reason) ↔ ¬ broken ∧ ¬ exempt ∧ ¬ fits

section Follows

variable {broken exempt fits : Prop} {reason : String}

theorem follows_error (faulty : broken) :
    Follows broken exempt fits (.error filterName reason) := by
  constructor <;> simp [faulty]

theorem follows_allow (sound : ¬ broken) (given : exempt ∨ fits) :
    Follows broken exempt fits .allow := by
  constructor
  · simp [sound]
  · simp [sound, given]
  · simpa [sound] using given.resolve_left

theorem follows_deny (sound : ¬ broken) (listed : ¬ exempt) (long : ¬ fits) :
    Follows broken exempt fits (.deny filterName reason) := by
  constructor <;> simp [sound, listed, long]

theorem Follows.congr {broken' exempt' fits' : Prop} {d : Decision}
    (follows : Follows broken exempt fits d) (same : broken ↔ broken')
    (given : ¬ broken' → (exempt ∨ fits ↔ exempt' ∨ fits')) :
    Follows broken' exempt' fits' d := by
  constructor
  · rw [follows.error_iff, same]
  · rw [follows.allow_iff, same]
    exact and_congr_right given
  · rw [follows.deny_iff, same, ← not_or (p := exempt), ← not_or (p := exempt')]
    exact and_congr_right fun sound => not_congr (given sound)

/-- What follows one set of rules is nothing else. -/
theorem Follows.ne_error {d : Decision} (follows : Follows broken exempt fits d)
    (sound : ¬ broken) (filter : String) : d ≠ .error filter reason := by
  intro same
  by_cases given : exempt ∨ fits
  · rw [follows.allow_iff.mpr ⟨sound, given⟩] at same
    cases same
  · obtain ⟨_, denied⟩ := follows.deny_iff.mpr ⟨sound, not_or.mp given⟩
    rw [denied] at same
    cases same

end Follows

/-! The checks, from the inside out. -/

theorem malformed_of_le {start finish : Instant} (empty : finish ≤ start) :
    ∃ reason, malformed start finish = some (.error filterName reason) := by
  unfold malformed
  rw [if_pos empty]
  exact ⟨_, rfl⟩

theorem malformed_of_not_le {start finish : Instant} (sound : ¬ finish ≤ start) :
    malformed start finish = none := if_neg sound

theorem checkLength_follows (start finish : Instant) :
    Follows (finish ≤ start) False (l.Fits start finish) (l.checkLength start finish) := by
  unfold checkLength
  by_cases empty : finish ≤ start
  · obtain ⟨reason, bad⟩ := malformed_of_le empty
    rw [bad]
    exact follows_error empty
  rw [malformed_of_not_le empty]
  by_cases long : Span.ofSeconds l.maxLength < finish.since start
  · rw [if_pos long]
    exact follows_deny empty id (Int.not_le.mpr long)
  · rw [if_neg long]
    exact follows_allow empty (.inr (Int.not_lt.mp long))

theorem lt_of_not_le {a b : Instant} (above : ¬ b ≤ a) : a < b := Decidable.not_not.mp above

theorem later_lt {a b c : Instant} (first : a < c) (second : b < c) : a.later b < c := by
  unfold Instant.later
  split
  · exact second
  · exact first

/-- An extension is measured from a time before its end, so it cannot come out malformed. -/
theorem checkExtension_follows (now : Instant) (window : Nat) {current lease : Lease}
    (moved : current.endDate < lease.endDate) (sound : ¬ lease.endDate ≤ lease.startDate) :
    Follows False False
      ((current.endDate.back window).getD Instant.earliest ≤ now ∧
        l.Fits (current.endDate.later lease.startDate) lease.endDate)
      (l.checkExtension now window current lease) := by
  unfold checkExtension
  have measured : ¬ lease.endDate ≤ current.endDate.later lease.startDate :=
    not_not_intro (later_lt moved (lt_of_not_le sound))
  by_cases early : now < opensAt window current
  · rw [if_pos early]
    exact follows_deny id id fun fits => fits.1 early
  · rw [if_neg early]
    have length := l.checkLength_follows (current.endDate.later lease.startDate) lease.endDate
    exact length.congr (iff_false_intro measured) fun _ =>
      or_congr_right ⟨fun fits => ⟨early, fits⟩, And.right⟩

theorem checkWindows_follows (now : Instant) (current lease : Lease)
    (sound : ¬ lease.endDate ≤ lease.startDate) :
    Follows False False (l.Fits lease.startDate lease.endDate ∨ l.Extends now current lease)
      (l.checkWindows now (some current) lease) := by
  have proposed := l.checkLength_follows lease.startDate lease.endDate
  unfold checkWindows
  by_cases fits : l.Fits lease.startDate lease.endDate
  · -- What fits as a whole is allowed before any extension is looked at.
    rw [proposed.allow_iff.mpr ⟨sound, .inr fits⟩]
    cases l.extensionWindow with
    | none => exact follows_allow id (.inr (.inl fits))
    | some window =>
      simp only [isDeny, Bool.false_eq_true, and_false, if_false]
      exact follows_allow id (.inr (.inl fits))
  · obtain ⟨reason, denied⟩ := proposed.deny_iff.mpr ⟨sound, id, fits⟩
    rw [denied]
    cases set : l.extensionWindow with
    | none =>
      refine follows_deny id id ?_
      rintro (whole | ⟨window, given, _⟩)
      · exact fits whole
      · cases set.symm.trans given
    | some window =>
      simp only [isDeny, and_true]
      by_cases moved : current.endDate < lease.endDate
      · rw [if_pos moved]
        refine (l.checkExtension_follows now window moved sound).congr Iff.rfl fun _ => ?_
        apply or_congr_right
        constructor
        · rintro ⟨begun, added⟩
          exact .inr ⟨window, set, moved, begun, added⟩
        · rintro (whole | ⟨window', given, _, begun, added⟩)
          · exact absurd whole fits
          · cases set.symm.trans given
            exact ⟨begun, added⟩
      · rw [if_neg moved]
        refine follows_deny id id ?_
        rintro (whole | ⟨_, _, later, _⟩)
        · exact fits whole
        · exact moved later

/-- Errors come before exemption, and exemption before the windows. -/
theorem decide_follows (now : Instant) (ctx : Context) (current : Option Lease) (lease : Lease)
    {fits : Prop} (windows : ¬ lease.endDate ≤ lease.startDate →
      Follows False False fits (l.checkWindows now current lease)) :
    Follows (lease.endDate ≤ lease.startDate) (ctx.projectId ∈ l.exemptProjects) fits
      (l.decide now ctx current lease) := by
  unfold decide
  by_cases empty : lease.endDate ≤ lease.startDate
  · obtain ⟨reason, bad⟩ := malformed_of_le empty
    rw [bad]
    exact follows_error empty
  rw [malformed_of_not_le empty]
  by_cases listed : ctx.projectId ∈ l.exemptProjects
  · have exempt : l.isExempt ctx = true := List.contains_iff_mem.mpr listed
    simp only [exempt, if_true]
    exact follows_allow empty (.inl listed)
  · have asked : l.isExempt ctx = false := by simpa [isExempt] using listed
    simp only [asked, Bool.false_eq_true, if_false]
    exact (windows empty).congr (iff_false_intro empty).symm fun _ =>
      or_congr_left (iff_false_intro listed).symm

theorem decide_create_follows (now : Instant) (ctx : Context) (lease : Lease) :
    Follows (lease.endDate ≤ lease.startDate) (ctx.projectId ∈ l.exemptProjects)
      (l.Fits lease.startDate lease.endDate) (l.decide now ctx none lease) := by
  apply l.decide_follows
  intro sound
  exact (l.checkLength_follows lease.startDate lease.endDate).congr (iff_false_intro sound)
    fun _ => Iff.rfl

theorem decide_update_follows (now : Instant) (ctx : Context) (current lease : Lease) :
    Follows (lease.endDate ≤ lease.startDate) (ctx.projectId ∈ l.exemptProjects)
      (l.Fits lease.startDate lease.endDate ∨ l.Extends now current lease)
      (l.decide now ctx (some current) lease) := by
  apply l.decide_follows
  intro sound
  exact l.checkWindows_follows now current lease sound

/-! Calls. -/

section Calls

variable {σ : Type} (s : Setting) (deadline : Option Nat) (j : Journal σ) (ctx : Context)

/-- A check takes no time, so no deadline cuts it off. -/
theorem run_check (current : Option Lease) (lease : Lease) :
    ((l.check ctx current lease).run s deadline j).1 =
      some (.decided (l.decide s.now ctx current lease)) := by
  unfold check
  split <;> rfl

theorem run_check_iff (current : Option Lease) (lease : Lease) (d : Decision) :
    ((l.check ctx current lease).run s deadline j).1 = some (.decided d) ↔
      l.decide s.now ctx current lease = d := by
  rw [run_check, Option.some.injEq, Ending.decided.injEq]

/-- A call of the limit is answered by its rules. For an update they are those of a create with one
more way to fit, which is there only if a window is set: without one, neither the current lease
nor the time of day matters. Ending is always allowed. -/
theorem call_decides (current lease : Lease) :
    ∃ created updated,
      ((l.filter.call ctx (.create lease)).run s deadline j).1 = some (.decided created) ∧
      ((l.filter.call ctx (.update current lease)).run s deadline j).1 =
        some (.decided updated) ∧
      ((l.filter.call ctx (.onEnd current)).run s deadline j).1 = some (.decided .allow) ∧
      Follows (lease.endDate ≤ lease.startDate) (ctx.projectId ∈ l.exemptProjects)
        (l.Fits lease.startDate lease.endDate) created ∧
      Follows (lease.endDate ≤ lease.startDate) (ctx.projectId ∈ l.exemptProjects)
        (l.Fits lease.startDate lease.endDate ∨ l.Extends s.now current lease) updated ∧
      (∀ window, ¬ lease.endDate ≤ lease.startDate → current.endDate < lease.endDate →
        ∀ filter reason, l.checkExtension s.now window current lease ≠ .error filter reason) ∧
      (l.extensionWindow = none → ∀ (s' : Setting) (current' : Lease),
        ((l.filter.call ctx (.update current' lease)).run s' deadline j).1 =
          some (.decided created)) := by
  refine ⟨l.decide s.now ctx none lease, l.decide s.now ctx (some current) lease,
    run_check l s deadline j ctx none lease, run_check l s deadline j ctx (some current) lease,
    rfl, ?create, ?update, ?extension, ?unset⟩
  case create =>
    apply l.decide_follows
    intro sound
    exact (l.checkLength_follows lease.startDate lease.endDate).congr (iff_false_intro sound)
      fun _ => Iff.rfl
  case update =>
    apply l.decide_follows
    intro sound
    exact l.checkWindows_follows s.now current lease sound
  case extension =>
    intro window sound moved filter reason
    exact (l.checkExtension_follows s.now window moved sound).ne_error id filter
  case unset =>
    intro unset s' current'
    have same : l.decide s'.now ctx (some current') lease = l.decide s.now ctx none lease := by
      simp only [decide, checkWindows, unset]
    rw [← same]
    exact run_check l s' deadline j ctx (some current') lease

end Calls

end Admission.LengthLimit
