import Admission.Proofs.Chain.Build
import Admission.Proofs.Config.Loading
import Admission.Proofs.Delegate.Retry
import Admission.Proofs.Filter.Extension
import Admission.Proofs.Filter.Relaxation
import Admission.Proofs.Lease.Window
import Admission.Proofs.Retry
/-!
The numbers of a configuration as they are enforced. Filters cut numbers that are too large for
them, but those that were loaded are below every such cut: lengths and windows are limited to the
second, and retries are made after exactly the delays that are configured.
-/

namespace Admission

open Time (Instant Span Delay longestNanos)

/-- Milliseconds are counted in a signed word. -/
def Time.Span.Kept (s : Span) : Prop := s.nanos.natAbs ≤ (2 ^ 63 - 1) * 1000000

namespace LengthLimit

theorem kept_clamped (seconds : Nat) : (Span.ofSeconds (clamped seconds)).Kept := by
  simp only [clamped_eq, Span.Kept, Span.ofSeconds, Span.nanosPerSecond, longestLimit]
  omega

theorem clamped_of_le {seconds : Nat} (short : seconds ≤ Config.longestLength) :
    clamped seconds = seconds :=
  (clamped_eq seconds).trans (Nat.min_eq_left short)

end LengthLimit

/-! Lengths. -/

namespace LengthSection

variable {c : LengthSection}

/-- The limit with the numbers of the section as they stand. -/
def limit (c : LengthSection) : LengthLimit := ⟨c.maxLength, c.extensionWindow, c.exemptProjects⟩

theorem ofSeconds_eq_limit (valid : c.validate = .ok ()) :
    LengthLimit.ofSeconds c.maxLength c.extensionWindow c.exemptProjects = c.limit := by
  obtain ⟨⟨_, short⟩, window⟩ := bounds_of_validate valid
  have same : c.extensionWindow.map LengthLimit.clamped = c.extensionWindow := by
    cases set : c.extensionWindow with
    | none => rfl
    | some seconds => exact congrArg some (LengthLimit.clamped_of_le (window seconds set).2)
  rw [LengthLimit.ofSeconds, LengthLimit.clamped_of_le short, same, limit]

/-- The window of a lease is longer than the configured maximum. -/
def Exceeded (c : LengthSection) (l : Lease) : Prop :=
  c.maxLength * Span.nanosPerSecond < l.duration.nanos

instance (c : LengthSection) (l : Lease) : Decidable (c.Exceeded l) := Int.decLt ..

theorem exceeded_iff {l : Lease} :
    c.Exceeded l ↔ ¬ c.limit.Fits l.startDate l.endDate := Int.not_le.symm

theorem ordered_of_exceeded (valid : c.validate = .ok ()) {l : Lease} (dated : l.Dated)
    (exceeded : c.Exceeded l) : l.startDate < l.endDate := by
  have positive := (bounds_of_validate valid).1.1
  apply Decidable.not_not.mp
  intro empty
  have short := Lease.duration_lt_of_empty dated empty
  unfold Exceeded Span.nanosPerSecond at *
  omega

/-- A filter that bounds lengths by the numbers of the section, to the nanosecond. Projects that
are exempt are not bound by it. -/
structure Enforced {σ : Type} (c : LengthSection) (f : Filter σ) : Prop where
  create : ∀ (s : Setting) (deadline : Option Nat) (j : Journal σ) (ctx : Context) (lease : Lease),
    lease.Dated →
    ((∃ reason, ((f.call ctx (.create lease)).run s deadline j).1 =
        some (.decided (.deny LengthLimit.filterName reason))) ↔
      ctx.projectId ∉ c.exemptProjects ∧ c.Exceeded lease)
  opening : ∀ (window : Nat) (current : Lease), c.extensionWindow = some window → current.Dated →
    ∃ opens : Instant,
      opens.tick = max Instant.earliest.tick
        (current.endDate.tick - window * Span.nanosPerSecond) ∧
      (∀ now : Instant, now.Regular →
        (now < opens ↔ now.tick + window * Span.nanosPerSecond < current.endDate.tick)) ∧
      ∀ (s : Setting) (deadline : Option Nat) (j : Journal σ) (ctx : Context) (lease : Lease),
        lease.Dated → ctx.projectId ∉ c.exemptProjects → c.Exceeded lease →
        current.endDate < lease.endDate →
        ((f.call ctx (.update current lease)).run s deadline j).1 = some (.decided (
          if s.now < opens then LengthLimit.tooEarly window current
          else c.limit.checkLength (current.endDate.later lease.startDate) lease.endDate))

theorem enforced_limit {σ : Type} (valid : c.validate = .ok ()) :
    c.Enforced (c.limit.filter : Filter σ) where
  create := by
    intro s deadline j ctx lease dated
    have rules := c.limit.decide_create_follows s.now ctx lease
    have answer := c.limit.run_check_iff s deadline j ctx none lease
    constructor
    · rintro ⟨reason, denied⟩
      obtain ⟨_, asked, long⟩ := rules.deny_iff.mp ⟨reason, (answer _).mp denied⟩
      exact ⟨asked, exceeded_iff.mpr long⟩
    · rintro ⟨asked, exceeded⟩
      have sound := not_not_intro (ordered_of_exceeded valid dated exceeded)
      obtain ⟨reason, denied⟩ := rules.deny_iff.mpr ⟨sound, asked, exceeded_iff.mp exceeded⟩
      exact ⟨reason, (answer _).mpr denied⟩
  opening := by
    intro window current set dated
    have positive := ((bounds_of_validate valid).2 window set).1
    have range := dated.endDate.inRange
    refine ⟨LengthLimit.opensAt window current, Instant.tick_back range window,
      fun now regular => regular.lt_back_iff range positive, ?_⟩
    intro s deadline j ctx lease wanted asked exceeded moved
    have sound := not_not_intro (ordered_of_exceeded valid wanted exceeded)
    apply (c.limit.run_check_iff s deadline j ctx (some current) lease _).mpr
    rw [c.limit.decide_of_long set asked sound (exceeded_iff.mp exceeded), if_pos moved]
    rfl

end LengthSection

/-! Retries. -/

namespace Delegate

/-- Every delegate makes its attempts as the script says. -/
def Script.sending (script : Script) : Sending (List Attempt) := fun _ _ url body failed =>
  script.send url body failed

end Delegate

namespace ServiceSection

variable {c : ServiceSection}

def retry (c : ServiceSection) : Retry :=
  ⟨c.maxRetries, .ofMillis c.backoffInitial, .ofMillis c.backoffMax⟩

theorem retry_of_ofSection {counted : Bool} {d : Delegate}
    (built : Delegate.ofSection c counted = .ok d) : d.caller.retry = c.retry := by
  obtain ⟨_, _, built⟩ := of_bind_ok built
  obtain ⟨_, _, built⟩ := of_bind_ok built
  cases built
  rfl

theorem nanos_ofMillis {n : Nat} (word : n < 2 ^ 64) :
    (Delay.ofMillis n).nanos = n * Delegate.nanosPerMilli := by
  apply Delay.nanos_ofNanos_of_le
  unfold longestNanos UInt64.size
  omega

/-- Ten doublings of the longest first delay still fit. -/
theorem nanos_times_factor (initial : c.backoffInitial < 2 ^ 64) {n : Nat} (few : n ≤ 10) :
    (c.retry.initial.times (Retry.factor n)).nanos =
      c.backoffInitial * 2 ^ (n - 1) * Delegate.nanosPerMilli := by
  have doublings : 2 ^ (n - 1) ≤ 2 ^ 9 := Nat.pow_le_pow_right Nat.two_pos (by omega)
  have product : c.backoffInitial * 2 ^ (n - 1) ≤ (2 ^ 64 - 1) * 2 ^ 9 :=
    Nat.mul_le_mul (Nat.le_sub_one_of_lt initial) doublings
  have first : c.retry.initial.nanos = c.backoffInitial * Delegate.nanosPerMilli :=
    nanos_ofMillis initial
  rw [Retry.factor_of_le (by omega), Delay.times, first, Nat.mul_right_comm]
  apply Delay.nanos_ofNanos_of_le
  unfold Delegate.nanosPerMilli longestNanos UInt64.size
  omega

theorem nanos_delay (initial : c.backoffInitial < 2 ^ 64) (cap : c.backoffMax < 2 ^ 64) {n : Nat}
    (few : n ≤ 10) : (c.retry.delay n).nanos =
      min (c.backoffInitial * 2 ^ (n - 1)) c.backoffMax * Delegate.nanosPerMilli := by
  have longest : c.retry.longest.nanos = c.backoffMax * Delegate.nanosPerMilli := nanos_ofMillis cap
  rw [Retry.delay, Delay.nanos_shorter, nanos_times_factor initial few, longest,
    Nat.mul_min_mul_right]

/-- The attempts of a call, at most eleven, with the retries of the section between them. Before
retry `i + 1` lies its delay in whole milliseconds, and nothing else. -/
structure Paced (c : ServiceSection) (script : Delegate.Script) (made : List Delegate.Attempt) :
    Prop where
  length : made.length ≤ 11
  number : ∀ (i : Nat) (a : Delegate.Attempt), made[i]? = some a → a.number = i
  delay : ∀ (i : Nat) (a b : Delegate.Attempt), made[i]? = some a → made[i + 1]? = some b →
    b.start = a.start + script.takes i +
      min (c.backoffInitial * 2 ^ i) c.backoffMax * Delegate.nanosPerMilli

theorem paced_of_spaced (valid : c.validate = .ok ()) (initial : c.backoffInitial < 2 ^ 64)
    (cap : c.backoffMax < 2 ^ 64) {script : Delegate.Script} {made : List Delegate.Attempt}
    (spaced : Delegate.Spaced script c.retry made) : c.Paced script made := by
  have few : c.retry.limit ≤ 10 := (retries_of_validate valid).1
  have length := spaced.length
  refine ⟨by omega, spaced.number, ?_⟩
  intro i a b first second
  have inside := (List.getElem?_eq_some_iff.mp second).1
  rw [spaced.start i a b first second, nanos_delay initial cap (by omega), Nat.add_sub_cancel]

end ServiceSection

namespace Config

open Registry (builtin builtinWith)

variable {text : String} {c : Config}

theorem build_lengthLimit (loaded : load text = .ok c) {lengths : LengthSection}
    (given : c.filters.lengthLimit = some lengths) (σ : Type) :
    (builtin : Registry σ).build LengthLimit.filterName c.filters = .ok lengths.limit.filter := by
  have same := LengthSection.ofSeconds_eq_limit (lengthLimit_of_load loaded given)
  rw [Registry.builtin_eq, Registry.build_pair, if_neg (by decide), if_pos rfl,
    Registry.lengthLimit, given]
  simp only [same]

theorem paced_of_build (loaded : load text = .ok c) {service : ServiceSection}
    (given : c.filters.service = some service) {script : Delegate.Script}
    {f : Filter (List Delegate.Attempt)}
    (built : (builtinWith script.sending).build Delegate.filterName c.filters = .ok f)
    (s : Setting) (deadline : Option Nat) (j : Journal (List Delegate.Attempt)) (ctx : Context)
    (change : Change) : ∃ made,
      ((f.call ctx change).run s deadline j).2.memory = j.memory ++ made ∧
      service.Paced script made := by
  obtain ⟨initial, cap⟩ := backoff_of_load loaded given
  cases Registry.built_of_build built with
  | lengthLimit named => exact absurd named (by decide)
  | @delegate _ d _ given' made =>
    cases given.symm.trans given'
    obtain ⟨attempts, memory, spaced⟩ :=
      Delegate.exists_spaced script change.hook (Delegate.body ctx change) s deadline d j
    rw [ServiceSection.retry_of_ofSection made] at spaced
    refine ⟨attempts, ?_, ServiceSection.paced_of_spaced (service_of_load loaded given) initial cap
      spaced⟩
    rw [← memory]
    change ((d.consult script.send change.hook (Delegate.body ctx change) >>=
      fun decision => Pure.pure (Ending.decided decision)).run s deadline j).2.memory = _
    rw [Task.run_bind]
    generalize (d.consult script.send change.hook (Delegate.body ctx change)).run s deadline j = r
    obtain ⟨_ | _, _⟩ := r <;> rfl

/-- Numbers above a hundred years are cut to that, and none leaves the range of spans. Those of a
configuration that was loaded are enforced as they stand: a create is denied exactly if its project
is asked and it is longer, and the extension window opens those seconds before the current end, or
with the first date. A call makes at most eleven attempts, and the delays between them are the exact
powers of two up to the cap, since none of them is cut off. -/
theorem limits_enforced :
    (∀ (max : Nat) (window : Option Nat) (exempt : List String),
      let l := LengthLimit.ofSeconds max window exempt
      l.maxLength = min max longestLength ∧ l.extensionWindow = window.map (min · longestLength) ∧
      (Span.ofSeconds l.maxLength).Kept ∧
      ∀ seconds, l.extensionWindow = some seconds → (Span.ofSeconds seconds).Kept) ∧
    (∀ seconds seconds', seconds ≤ seconds' →
      LengthLimit.clamped seconds ≤ LengthLimit.clamped seconds') ∧
    ∀ text c, load text = .ok c →
      (∀ lengths, c.filters.lengthLimit = some lengths → ∀ σ,
        (builtin : Registry σ).build LengthLimit.filterName c.filters = .ok lengths.limit.filter ∧
        lengths.Enforced (lengths.limit.filter : Filter σ)) ∧
      ∀ service, c.filters.service = some service →
        (∀ n, 1 ≤ n → n ≤ 10 → (service.retry.initial.times (Retry.factor n)).nanos =
          service.backoffInitial * 2 ^ (n - 1) * Delegate.nanosPerMilli) ∧
        ∀ (script : Delegate.Script) (f : Filter (List Delegate.Attempt)),
          (builtinWith script.sending).build Delegate.filterName c.filters = .ok f →
          ∀ s deadline j ctx change, ∃ made,
            ((f.call ctx change).run s deadline j).2.memory = j.memory ++ made ∧
            service.Paced script made := by
  refine ⟨?cut, fun _ _ => LengthLimit.clamped_le, ?loaded⟩
  case cut =>
    intro max window exempt l
    refine ⟨LengthLimit.clamped_eq max, ?_, LengthLimit.kept_clamped max, ?_⟩
    · exact congrArg (window.map ·) (funext LengthLimit.clamped_eq)
    · intro seconds set
      obtain ⟨given, _, rfl⟩ := Option.map_eq_some_iff.mp set
      exact LengthLimit.kept_clamped given
  case loaded =>
    intro text c loaded
    constructor
    · intro lengths given σ
      have valid := lengthLimit_of_load loaded given
      exact ⟨build_lengthLimit loaded given σ, LengthSection.enforced_limit valid⟩
    · intro service given
      have initial := (backoff_of_load loaded given).1
      exact ⟨fun _ _ few => ServiceSection.nanos_times_factor initial few,
        fun script f built s deadline j ctx change =>
          paced_of_build loaded given built s deadline j ctx change⟩

-- The longest delays there are, and a lease twice as long as allowed: it is denied as new, denied
-- as an extension one second before the window opens, and allowed when it does.
theorem limits_enforced_longest_delays :
    let text := "version: 1\nfilters:\n  max_reservation_length:\n" ++
      "    max_reservation_length: 10\n    reservation_extension_window: 5\n" ++
      "  external_service:\n    endpoint: http://h\n    token: t\n    max_retries: 10\n" ++
      "    backoff_initial_ms: 18446744073709551615\n" ++
      "    backoff_max_ms: 18446744073709551615\n"
    let lengths : LengthSection := { maxLength := 10, extensionWindow := some 5 }
    let service : ServiceSection :=
      { endpoint := some "http://h", token := some "t", maxRetries := 10,
        backoffInitial := 18446744073709551615, backoffMax := 18446744073709551615 }
    let c : Config := { version := 1, filters := ⟨some lengths, some service⟩ }
    let setting (second : Nat) : Setting := ⟨⟨21915, second, 0⟩, [], Service.absent, .zero⟩
    let ctx : Context := ⟨"u1", "p1", "http://keystone.local/v3", "RegionOne"⟩
    let current : Lease := { startDate := ⟨21915, 10, 0⟩, endDate := ⟨21915, 20, 0⟩ }
    let lease : Lease := { startDate := ⟨21915, 10, 0⟩, endDate := ⟨21915, 30, 0⟩ }
    let answer (second : Nat) (change : Change) :=
      ((lengths.limit.filter.call ctx change).run (setting second) none
        ({ memory := () } : Journal Unit)).1
    let lost : Delegate.Script := ⟨fun _ => .error (.transport false "lost"), fun _ => 3⟩
    load text = .ok c ∧
      (∃ reason, answer 0 (.create lease) =
        some (.decided (.deny LengthLimit.filterName reason))) ∧
      answer 14 (.update current lease) = some (.decided (LengthLimit.tooEarly 5 current)) ∧
      answer 15 (.update current lease) = some (.decided .allow) ∧
      (service.retry.initial.times (Retry.factor 10)).nanos =
        18446744073709551615 * 2 ^ 9 * 1000000 ∧
      ∃ f, (builtinWith lost.sending).build Delegate.filterName c.filters = .ok f ∧
        ∃ made, ((f.call ctx (.create lease)).run (setting 0) none { memory := [] }).2.memory =
          made ∧ service.Paced lost made ∧ made.length = 11 := by
  intro text lengths service c setting ctx current lease answer lost
  have loaded : load text = .ok c := by decide +kernel
  obtain ⟨enforced, paced⟩ := limits_enforced.2.2 text c loaded
  obtain ⟨create, opening⟩ := (enforced lengths rfl Unit).2
  obtain ⟨factors, paced⟩ := paced service rfl
  have dated : lease.Dated := by decide
  have asked : ctx.projectId ∉ lengths.exemptProjects := by decide
  have long : lengths.Exceeded lease := by decide
  have moved : current.endDate < lease.endDate := by decide
  obtain ⟨opens, -, begun, updated⟩ := opening 5 current rfl (by decide)
  have early : (setting 14).now < opens := (begun _ (by decide)).mpr (by decide)
  have open_ : ¬ (setting 15).now < opens := mt (begun _ (by decide)).mp (by decide)
  have update (second : Nat) :=
    updated (setting second) none { memory := () } ctx lease dated asked long moved
  refine ⟨loaded, ?_, ?_, ?_, factors 10 (by decide) (by decide), ?_⟩
  · exact (create (setting 0) none { memory := () } ctx lease dated).mpr ⟨asked, long⟩
  · exact (update 14).trans (by rw [if_pos early])
  · exact (update 15).trans (by rw [if_neg open_]; decide)
  · have eleven : ((builtinWith lost.sending).build Delegate.filterName c.filters).map (fun f =>
        ((f.call ctx (.create lease)).run (setting 0) none
          ({ memory := [] } : Journal (List Delegate.Attempt))).2.memory.length) = .ok 11 := by
      decide +kernel
    obtain ⟨f, built, eleven⟩ := of_map_ok eleven
    obtain ⟨made, memory, keeps⟩ :=
      paced lost f built (setting 0) none { memory := [] } ctx (.create lease)
    rw [List.nil_append] at memory
    exact ⟨f, built, made, memory, keeps, memory ▸ eleven⟩

-- The same lease by a project that is exempt.
theorem limits_enforced_exempt :
    let text := "version: 1\nfilters:\n  max_reservation_length:\n" ++
      "    max_reservation_length: 10\n    exempt_project_ids: [ops]\n"
    let lengths : LengthSection := { maxLength := 10, exemptProjects := ["ops"] }
    let c : Config := { version := 1, filters := { lengthLimit := some lengths } }
    let s : Setting := ⟨⟨21915, 0, 0⟩, [], Service.absent, .zero⟩
    let ctx : Context := ⟨"u1", "ops", "http://keystone.local/v3", "RegionOne"⟩
    let lease : Lease := { startDate := ⟨21915, 10, 0⟩, endDate := ⟨21915, 30, 0⟩ }
    load text = .ok c ∧
      (builtin : Registry Unit).build LengthLimit.filterName c.filters =
        .ok lengths.limit.filter ∧
      lengths.Exceeded lease ∧
      ((lengths.limit.filter.call ctx (.create lease)).run s none
        ({ memory := () } : Journal Unit)).1 = some (.decided .allow) := by
  intro text lengths c s ctx lease
  have loaded : load text = .ok c := by decide +kernel
  have long : lengths.Exceeded lease := by decide
  have exempt : ctx.projectId ∈ lengths.limit.exemptProjects := by decide
  have sound : ¬ lease.endDate ≤ lease.startDate := by decide
  have rules := lengths.limit.decide_create_follows s.now ctx lease
  refine ⟨loaded, build_lengthLimit loaded rfl Unit, long, ?_⟩
  apply (lengths.limit.run_check_iff s none { memory := () } ctx none lease _).mpr
  exact rules.allow_iff.mpr ⟨sound, .inl exempt⟩

end Config

end Admission
