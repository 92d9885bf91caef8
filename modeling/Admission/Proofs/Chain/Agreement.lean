import Mathlib.Data.List.Forall2
import Admission.Proofs.Chain.Build
import Admission.Proofs.Chain.Trace
/-!
Two chains whose filters agree, one by one, come to the same ends on every run, and leave journals
that are related as those before.
-/

namespace Admission

variable {σ σ' : Type} {S : Setting → Setting → Prop} {R : Journal σ → Journal σ' → Prop}

/-- Filters of one name that agree on every call. -/
structure Filter.Agrees (S : Setting → Setting → Prop) (R : Journal σ → Journal σ' → Prop)
    (f : Filter σ) (f' : Filter σ') : Prop where
  name : f.name = f'.name
  call : ∀ ctx change, Task.Agrees S R Eq (f.call ctx change) (f'.call ctx change)

/-- The same question, asked in related settings. -/
structure Visit.Agrees (S : Setting → Setting → Prop) (v v' : Visit) : Prop where
  setting : S v.setting v'.setting
  context : v.context = v'.context
  change : v.change = v'.change

/-- The limit on lengths looks at nothing but the time of day. -/
theorem LengthLimit.agrees_filter (mirrors : Task.Mirrors R)
    (now : ∀ {s s'}, S s s' → s.now = s'.now) (l : LengthLimit) :
    Filter.Agrees S R (l.filter : Filter σ) (l.filter : Filter σ') := by
  have decides (ctx : Context) (current : Option Lease) (lease : Lease) :
      Task.Agrees S R Eq
        (do return .decided (l.decide (← Task.setting).now ctx current lease) : Task σ Ending)
        (do return .decided (l.decide (← Task.setting).now ctx current lease)) :=
    Task.agrees_setting.bind fun s s' settings => now settings ▸ Task.agrees_pure rfl
  have checks (ctx : Context) (current : Option Lease) (lease : Lease) :
      Task.Agrees S R Eq (l.check ctx current lease : Task σ Ending)
        (l.check ctx current lease : Task σ' Ending) := by
    unfold check
    split
    · exact (mirrors.note _).bind fun _ _ _ => decides ctx current lease
    · exact decides ctx current lease
  refine ⟨rfl, fun ctx change => ?_⟩
  cases change with
  | create lease => exact checks ctx none lease
  | update current lease => exact checks ctx (some current) lease
  | onEnd current => exact Task.agrees_pure rfl

namespace Chain

/-- The same rules for two lists of filters that agree. -/
structure Agrees (S : Setting → Setting → Prop) (R : Journal σ → Journal σ' → Prop)
    (c : Chain σ) (c' : Chain σ') : Prop where
  filters : List.Forall₂ (Filter.Agrees S R) c.filters c'.filters
  exemptProjects : c.exemptProjects = c'.exemptProjects
  hookTimeout : c.hookTimeout = c'.hookTimeout

variable {c : Chain σ} {c' : Chain σ'} {j : Journal σ} {j' : Journal σ'}
variable (mirrors : Task.Mirrors R)

include mirrors

theorem agrees_record (journals : R j j') (hook : Hook) (name : String) (ctx : Context)
    (d : Decision) : R (record hook name ctx d j) (record hook name ctx d j') :=
  mirrors.notes (mirrors.counts journals _) _

theorem agrees_scan (timeout : c.hookTimeout = c'.hookTimeout) {s s' : Setting}
    (settings : S s s') (deadline : Nat) (ctx : Context) (change : Change) {fs : List (Filter σ)}
    {fs' : List (Filter σ')} (filters : List.Forall₂ (Filter.Agrees S R) fs fs')
    (journals : R j j') :
    (c.scan s deadline ctx change fs j).1 = (c'.scan s' deadline ctx change fs' j').1 ∧
      R (c.scan s deadline ctx change fs j).2 (c'.scan s' deadline ctx change fs' j').2 := by
  induction filters generalizing j j' with
  | nil => exact ⟨rfl, journals⟩
  | @cons f f' rest rest' first more ih =>
    obtain ⟨endings, after⟩ := first.call ctx change s s' (some deadline) j j' settings journals
    simp only [scan]
    generalize (f.call ctx change).run s (some deadline) j = r at endings after
    generalize (f'.call ctx change).run s' (some deadline) j' = r' at endings after
    have same : c'.decisionOf f'.name change.hook r'.1 = c.decisionOf f.name change.hook r.1 := by
      rw [← Task.eq_of_rel endings, ← first.name]
      unfold decisionOf
      rw [timeout]
    rw [same, ← first.name]
    have recorded := agrees_record mirrors after change.hook f.name ctx
      (c.decisionOf f.name change.hook r.1)
    split
    · exact ih recorded
    · exact ⟨rfl, recorded⟩

variable (uptime : ∀ {s s'}, S s s' → s.uptime = s'.uptime) (chains : Agrees S R c c')

include uptime chains

theorem agrees_answer {v v' : Visit} (visits : v.Agrees S v') (journals : R j j') :
    (c.answer v j).1 = (c'.answer v' j').1 ∧ R (c.answer v j).2 (c'.answer v' j').2 := by
  obtain ⟨setting, ctx, change⟩ := v
  obtain ⟨setting', ctx', change'⟩ := v'
  obtain ⟨settings, rfl, rfl⟩ := visits
  simp only [answer, evaluate]
  split
  · exact ⟨rfl, agrees_record mirrors journals ..⟩
  · have exempt : c'.isExempt ctx = c.isExempt ctx := by
      unfold isExempt
      rw [chains.exemptProjects]
    rw [exempt]
    split
    · exact ⟨rfl, mirrors.counts (mirrors.notes journals _) _⟩
    rw [mirrors.clock journals, chains.hookTimeout, uptime settings]
    split
    · obtain ⟨decision, after⟩ := agrees_scan mirrors chains.hookTimeout settings
        (j'.elapsed + c'.hookTimeout.nanos) ctx change chains.filters journals
      exact ⟨congrArg Ending.decided decision, after⟩
    · exact ⟨rfl, journals⟩

theorem agrees_run {visits visits' : List Visit}
    (same : List.Forall₂ (Visit.Agrees S) visits visits') (journals : R j j') :
    (c.run visits j).1 = (c'.run visits' j').1 ∧ R (c.run visits j).2 (c'.run visits' j').2 := by
  induction same generalizing j j' with
  | nil => exact ⟨rfl, journals⟩
  | cons first more ih =>
    obtain ⟨ending, after⟩ := agrees_answer mirrors uptime chains first journals
    obtain ⟨endings, last⟩ := ih after
    exact ⟨congrArg₂ List.cons ending endings, last⟩

omit mirrors uptime chains

/-- Chains that are built alike agree if what is built for a name does. -/
theorem agrees_of_ofConfig {config config' : Config} {r : Registry σ} {r' : Registry σ'}
    {events events' : List Event} (built : ofConfig config r = .ok (c, events))
    (built' : ofConfig config' r' = .ok (c', events'))
    (rules : config.enforcement = config'.enforcement)
    (each : ∀ name f f', r.build name config.filters = .ok f →
      r'.build name config'.filters = .ok f' → Filter.Agrees S R f f') : Agrees S R c c' := by
  obtain ⟨fs, made, same⟩ := of_bind_ok built
  obtain ⟨fs', made', same'⟩ := of_bind_ok built'
  clear built built'
  cases same
  cases same'
  refine ⟨?_, congrArg (·.exemptProjects) rules,
    congrArg (fun e : EnforcementSection => Time.Delay.ofMillis e.hookTimeout) rules⟩
  rw [← rules] at made'
  simp only
  generalize config.enforcement.enabledFilters = names at made made'
  induction names generalizing fs fs' with
  | nil =>
    cases made
    cases made'
    exact .nil
  | cons name rest ih =>
    obtain ⟨f, first, made⟩ := of_bind_ok made
    obtain ⟨later, more, made⟩ := of_bind_ok made
    obtain ⟨f', first', made'⟩ := of_bind_ok made'
    obtain ⟨later', more', made'⟩ := of_bind_ok made'
    cases made
    cases made'
    exact .cons (each name f f' first first') (ih later later' more more')

/-- Chains of the filters of this library agree if their delegates do and lengths are limited
alike. -/
theorem agrees_of_builtinWith (mirrors : Task.Mirrors R)
    (now : ∀ {s s'}, S s s' → s.now = s'.now) {send : Delegate.Sending σ}
    {send' : Delegate.Sending σ'} {config config' : Config} {events events' : List Event}
    (built : ofConfig config (Registry.builtinWith send) = .ok (c, events))
    (built' : ofConfig config' (Registry.builtinWith send') = .ok (c', events'))
    (rules : config.enforcement = config'.enforcement)
    (lengths : config.filters.lengthLimit = config'.filters.lengthLimit)
    (delegates : ∀ {service service' : ServiceSection} {d d' : Delegate},
      config.filters.service = some service → config'.filters.service = some service' →
      Delegate.ofSection service true = .ok d → Delegate.ofSection service' true = .ok d' →
      Filter.Agrees S R (d.filterWith send) (d'.filterWith send')) : Agrees S R c c' := by
  refine agrees_of_ofConfig built built' rules fun name f f' first second => ?_
  have distinct : Delegate.filterName ≠ LengthLimit.filterName := by decide
  cases Registry.built_of_build first with
  | delegate named given made =>
    cases Registry.built_of_build second with
    | delegate _ given' made' => exact delegates given given' made made'
    | lengthLimit named' => exact absurd (named.symm.trans named') distinct
  | lengthLimit named given =>
    cases Registry.built_of_build second with
    | delegate named' => exact absurd (named'.symm.trans named) distinct
    | lengthLimit _ given' =>
      cases (given.symm.trans lengths).trans given'
      exact LengthLimit.agrees_filter mirrors now _

end Chain

end Admission
