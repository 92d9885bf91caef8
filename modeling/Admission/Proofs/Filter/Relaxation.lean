import Admission.Hook
import Admission.Proofs.Filter.LengthLimit
import Admission.Proofs.Time.Instant
/-!
Two limits on lengths, one of them laxer in all that is configured. Whatever the strict one allows
the lax one allows, though it may come to it by another branch: an update that was an extension may
fit as a whole, and one that was refused as a whole may be an extension.
-/

namespace Admission.LengthLimit

open Time (Instant Span)

/-- No window is smaller than any window. -/
structure Relaxes (l l' : LengthLimit) : Prop where
  maxLength : l.maxLength ≤ l'.maxLength
  window : ∀ w, l.extensionWindow = some w → ∃ w', l'.extensionWindow = some w' ∧ w ≤ w'
  exempt : l.exemptProjects ⊆ l'.exemptProjects

theorem clamped_le {seconds seconds' : Nat} (more : seconds ≤ seconds') :
    clamped seconds ≤ clamped seconds' := by
  rw [clamped_eq, clamped_eq]
  omega

theorem relaxes_ofSeconds {max max' : Nat} {window window' : Option Nat}
    {exempt exempt' : List String} (longer : max ≤ max')
    (wider : ∀ w, window = some w → ∃ w', window' = some w' ∧ w ≤ w')
    (listed : exempt ⊆ exempt') :
    (ofSeconds max window exempt).Relaxes (ofSeconds max' window' exempt') := by
  refine ⟨clamped_le longer, ?_, listed⟩
  intro w set
  obtain ⟨seconds, given, rfl⟩ := Option.map_eq_some_iff.mp set
  obtain ⟨seconds', given', more⟩ := wider seconds given
  exact ⟨clamped seconds', congrArg (Option.map clamped) given', clamped_le more⟩

section Relaxes

variable {l l' : LengthLimit}

theorem Relaxes.fits (relaxes : l.Relaxes l') {start finish : Instant}
    (fits : l.Fits start finish) : l'.Fits start finish := by
  have longer : (l.maxLength : Int) * Span.nanosPerSecond ≤ l'.maxLength * Span.nanosPerSecond := by
    have more := relaxes.maxLength
    unfold Span.nanosPerSecond
    omega
  exact Int.le_trans fits longer

/-- A wider window opens no later, also where the dates end before it could. -/
theorem Relaxes.extension (relaxes : l.Relaxes l') {now : Instant} {current lease : Lease}
    (range : current.endDate.InRange) (extension : l.Extends now current lease) :
    l'.Extends now current lease := by
  obtain ⟨w, set, moved, begun, fits⟩ := extension
  obtain ⟨w', set', more⟩ := relaxes.window w set
  have opened := Instant.back_antitone range more
  exact ⟨w', set', moved, Instant.le_trans opened begun, relaxes.fits fits⟩

theorem Follows.allow_of_allow {broken exempt exempt' fits fits' : Prop} {d d' : Decision}
    (strict : Follows broken exempt fits d) (lax : Follows broken exempt' fits' d')
    (listed : exempt → exempt') (fitting : fits → fits') (allowed : d = .allow) : d' = .allow := by
  obtain ⟨sound, given⟩ := strict.allow_iff.mp allowed
  exact lax.allow_iff.mpr ⟨sound, given.imp listed fitting⟩

theorem exists_decide_follows (l : LengthLimit) (now : Instant) (ctx : Context)
    (current : Option Lease) (lease : Lease) :
    ∃ fits, Follows (lease.endDate ≤ lease.startDate) (ctx.projectId ∈ l.exemptProjects) fits
      (l.decide now ctx current lease) := by
  cases current with
  | none => exact ⟨_, l.decide_create_follows now ctx lease⟩
  | some current => exact ⟨_, l.decide_update_follows now ctx current lease⟩

/-- Nothing that is configured makes an error, or another text of one. -/
theorem decide_error_iff (l : LengthLimit) (now : Instant) (ctx : Context)
    (current : Option Lease) (lease : Lease) (filter reason : String) :
    l.decide now ctx current lease = .error filter reason ↔
      malformed lease.startDate lease.endDate = some (.error filter reason) := by
  by_cases empty : lease.endDate ≤ lease.startDate
  · obtain ⟨text, bad⟩ := malformed_of_le empty
    have broken : l.decide now ctx current lease = .error filterName text := by
      unfold decide
      rw [bad]
    rw [broken, bad, Option.some.injEq]
  · obtain ⟨fits, follows⟩ := l.exists_decide_follows now ctx current lease
    rw [malformed_of_not_le empty]
    exact iff_of_false (follows.ne_error empty filter) nofun

/-- For the same time of the clock, what a limit allows every laxer one allows, at each hook, and
both find the same errors. The dates can be any that there are, inside a leap second too. -/
theorem relaxed_answer (relaxes : l.Relaxes l') {σ : Type} (s : Setting) (deadline : Option Nat)
    (j : Journal σ) (ctx : Context) (change : Change)
    (range : ∀ lease ∈ change.snapshots, lease.endDate.InRange) :
    ∃ d d', ((l.filter.call ctx change).run s deadline j).1 = some (.decided d) ∧
      ((l'.filter.call ctx change).run s deadline j).1 = some (.decided d') ∧
      (d = .allow → d' = .allow) ∧
      ∀ filter reason, d = .error filter reason ↔ d' = .error filter reason := by
  have errors (current : Option Lease) (lease : Lease) (filter reason : String) :
      l.decide s.now ctx current lease = .error filter reason ↔
        l'.decide s.now ctx current lease = .error filter reason := by
    rw [decide_error_iff, decide_error_iff]
  have listed (member : ctx.projectId ∈ l.exemptProjects) : ctx.projectId ∈ l'.exemptProjects :=
    relaxes.exempt member
  cases change with
  | create lease =>
    refine ⟨_, _, l.run_check s deadline j ctx none lease, l'.run_check s deadline j ctx none lease,
      ?_, errors none lease⟩
    have strict := l.decide_create_follows s.now ctx lease
    have lax := l'.decide_create_follows s.now ctx lease
    exact strict.allow_of_allow lax listed relaxes.fits
  | update current lease =>
    refine ⟨_, _, l.run_check s deadline j ctx (some current) lease,
      l'.run_check s deadline j ctx (some current) lease, ?_, errors (some current) lease⟩
    have strict := l.decide_update_follows s.now ctx current lease
    have lax := l'.decide_update_follows s.now ctx current lease
    have held : current.endDate.InRange := range current (by simp [Change.snapshots])
    exact strict.allow_of_allow lax listed (Or.imp relaxes.fits (relaxes.extension held))
  | onEnd current =>
    exact ⟨.allow, .allow, rfl, rfl, id, fun _ _ => Iff.rfl⟩

-- On the first of all days the wider window would open before it.
theorem relaxed_answer_first_day :
    let l := ofSeconds 10 (some 5) []
    let l' := ofSeconds 12 (some 86400) ["p2"]
    let s : Setting := ⟨⟨-96465292, 17, 0⟩, [], Service.absent, .zero⟩
    let ctx : Context := ⟨"u1", "p1", "http://keystone.local/v3", "RegionOne"⟩
    let current : Lease := { startDate := ⟨-96465292, 10, 0⟩, endDate := ⟨-96465292, 20, 0⟩ }
    let lease : Lease := { startDate := ⟨-96465292, 10, 0⟩, endDate := ⟨-96465292, 30, 0⟩ }
    l.Relaxes l' ∧ current.endDate.back 86400 = none ∧
      ((l.filter.call ctx (.update current lease)).run s none ({ memory := () } : Journal Unit)).1 =
        some (.decided .allow) ∧
      ((l'.filter.call ctx (.update current lease)).run s none
        ({ memory := () } : Journal Unit)).1 = some (.decided .allow) := by
  intro l l' s ctx current lease
  have relaxes : l.Relaxes l' := relaxes_ofSeconds (by decide)
    (fun w set => ⟨86400, rfl, by cases set; decide⟩) (by simp)
  have range : ∀ held ∈ (Change.update current lease).snapshots, held.endDate.InRange := by
    intro held member
    simp only [Change.snapshots, List.mem_cons, List.not_mem_nil, or_false] at member
    rcases member with rfl | rfl <;> decide
  obtain ⟨d, d', strict, lax, allows, _⟩ := relaxed_answer relaxes s none
    ({ memory := () } : Journal Unit) ctx (.update current lease) range
  have decided := (l.run_check_iff s none ({ memory := () } : Journal Unit) ctx (some current) lease
    d).mp strict
  have allowed : d = .allow := decided.symm.trans (by decide)
  rw [allowed] at strict
  rw [allows allowed] at lax
  exact ⟨relaxes, by decide, strict, lax⟩

end Relaxes

end Admission.LengthLimit
