import Admission.Proofs.Chain.Accounts
import Admission.Proofs.Chain.Agreement
import Admission.Proofs.Delegate.Attempt
import Admission.Proofs.Delegate.Retry
import Admission.Proofs.Metrics.Series
/-!
What remote calls leave in the counters. Attempts are made in any way at all, and each is noted
when it begins; a call of which every attempt ends is a series of lost ones and a last one. The
main statement adds up the calls of whole runs and compares them with the decisions.
-/

namespace Admission

/-- An attempt that was made, with its number in its call, from zero. -/
structure Try where
  hook : Hook
  number : Nat

/-- What remote calls change besides time and the log. -/
def Journal.counted {σ : Type} (j : Journal σ) : Metrics × σ := (j.metrics, j.memory)

namespace Delegate

/-- Notes each attempt before it is made. -/
def watched (send : Sending (List Try)) : Sending (List Try) := fun d hook url body failed => do
  Task.update fun j => { j with memory := j.memory ++ [⟨hook, failed⟩] }
  send d hook url body failed

/-- Attempts that count nothing themselves. -/
def Discreet (send : Sending (List Try)) : Prop :=
  ∀ d hook url body failed, (send d hook url body failed).Keeps Journal.counted

/-! One call. -/

/-- The tries of one call, from the given number on. -/
def tries (hook : Hook) (first count : Nat) : List Try :=
  (List.range' first count).map (Try.mk hook)

/-- What stands in the journal once attempts with these results have been made. -/
structure Counted (hook : Hook) (first : Nat) (results : List CallResult)
    (j last : Journal (List Try)) : Prop where
  memory : last.memory = j.memory ++ tries hook first results.length
  decisions : last.metrics.decisions = j.metrics.decisions
  remoteCalls : last.metrics.remoteCalls =
    j.metrics.remoteCalls.incAll (results.map (Metrics.callLabels hook))
  durations : ∃ times : List Time.Delay, times.length = results.length ∧
    last.metrics.remoteCallDuration =
      j.metrics.remoteCallDuration.observeAll (Metrics.hookLabels hook) times

theorem Counted.congr {hook : Hook} {first : Nat} {results : List CallResult}
    {j j' last : Journal (List Try)} (made : Counted hook first results j last)
    (same : j'.counted = j.counted) :
    Counted hook first results j' last := by
  obtain ⟨metrics, memory⟩ := Prod.mk.inj same
  exact ⟨memory ▸ made.memory, metrics ▸ made.decisions, metrics ▸ made.remoteCalls,
    metrics ▸ made.durations⟩

theorem Counted.cons {hook : Hook} {first : Nat} {result : CallResult} {results : List CallResult}
    {j middle last : Journal (List Try)} (one : Counted hook first [result] j middle)
    (more : Counted hook (first + 1) results middle last) :
    Counted hook first (result :: results) j last := by
  obtain ⟨time, single, took⟩ := one.durations
  obtain ⟨times, length, later⟩ := more.durations
  refine ⟨?_, more.decisions.trans one.decisions, ?_, time ++ times, ?_, ?_⟩
  · rw [more.memory, one.memory]
    simp [tries, List.range'_succ]
  · rw [more.remoteCalls, one.remoteCalls]
    rfl
  · simp [single, length, Nat.add_comm]
  · rw [later, took, Metrics.Histogram.observeAll, Metrics.Histogram.observeAll,
      Metrics.Histogram.observeAll, List.foldl_append]

/-- As a decision is counted that rests on the result. -/
def outcomeOf : CallResult → String
  | .allowed => "allowed"
  | .denied => "denied"
  | .badStatus | .transportError => "unavailable"

theorem outcome_of_settled {o : Outcome} {d : Decision} (settles : settled? o = some d) :
    d.outcome = outcomeOf (Caller.resultOf o) := by
  cases o with
  | error f =>
    cases f with
    | fatal reason =>
      cases settles
      rfl
    | transport timedOut text => cases settles
  | ok r =>
    simp only [settled?, Option.some.injEq] at settles
    subst settles
    simp only [Caller.resultOf]
    split
    · rfl
    · split <;> rfl

namespace Caller

variable {c : Caller} {hook : Hook} {url : Url} {body : String} {d : Delegate}
  {send : Sending (List Try)} {s : Setting} {deadline : Option Nat} {j last : Journal (List Try)}

theorem of_run_timed {attempt : Task (List Try) Outcome} {o : Outcome}
    (ran : (c.timed hook attempt).run s deadline j = (some o, last)) :
    ∃ next time, attempt.run s deadline j = (some o, next) ∧
      last = c.counting (Metrics.observeCall hook time) next := by
  obtain ⟨start, j, started, ran'⟩ := Task.run_bind_eq_some ran
  cases started
  obtain ⟨o', next, attempted, -⟩ := Task.run_bind_eq_some ran'
  cases (run_timed attempted).symm.trans ran
  exact ⟨next, _, attempted, rfl⟩

theorem of_run_watched (discreet : Discreet send) {failed : Nat} {o : Outcome}
    (ran : (watched send d hook url body failed).run s deadline j = (some o, last)) :
    last.metrics = j.metrics ∧ last.memory = j.memory ++ [⟨hook, failed⟩] := by
  obtain ⟨u, noted, note, attempted⟩ := Task.run_bind_eq_some ran
  have kept := discreet d hook url body failed s deadline noted
  rw [attempted] at kept
  cases note
  exact Prod.mk.inj kept

/-- One attempt, and what its result is counted as. -/
theorem timed_counted (counts : c.counted = true) (discreet : Discreet send) {failed : Nat}
    {o : Outcome} (result : CallResult)
    (ran : (c.timed hook (watched send d hook url body failed)).run s deadline j =
      (some o, last)) :
    Counted hook failed [result] j (c.counting (Metrics.countCall hook result) last) := by
  obtain ⟨next, time, attempted, rfl⟩ := of_run_timed ran
  obtain ⟨metrics, memory⟩ := of_run_watched discreet attempted
  simp only [counting, counts, if_true]
  refine ⟨memory, ?_, ?_, [time], rfl, ?_⟩
  · rw [← metrics]
    rfl
  · rw [← metrics]
    rfl
  · rw [← metrics]
    rfl

theorem counted_of_wait {nanos : Nat} (ran : (Task.wait nanos).run s deadline j = (some (), last)) :
    last.counted = j.counted := by
  have pauses : (Task.wait nanos : Task (List Try) Unit).Keeps Journal.counted :=
    Task.keeps_wait (fun _ _ => rfl) nanos
  have kept := pauses s deadline j
  rwa [ran] at kept

/-- An attempt that arrives is the last of its call. -/
theorem of_callFrom_arrived {left failed : Nat} {attempt : Nat → Task (List Try) Outcome}
    {o : Outcome} {next : Journal (List Try)} {decision : Decision}
    (attempted : (c.timed hook (attempt failed)).run s deadline j = (some o, next))
    (arrived : ¬ Lost o)
    (ran : (c.callFrom hook url attempt left failed).run s deadline j = (some decision, last)) :
    last = c.counting (Metrics.countCall hook (resultOf o)) next ∧
      decision.outcome = outcomeOf (resultOf o) := by
  obtain ⟨_, settles⟩ := settled_of_not_lost arrived
  cases (callFrom_settles attempted settles).symm.trans ran
  exact ⟨rfl, outcome_of_settled settles⟩

/-- A call that ends is a series of attempts that were lost and a last one. -/
theorem callFrom_counted (counts : c.counted = true) (discreet : Discreet send) {left failed : Nat}
    {decision : Decision}
    (ran : (c.callFrom hook url (watched send d hook url body) left failed).run s deadline j =
      (some decision, last)) :
    ∃ lost result, Counted hook failed (List.replicate lost .transportError ++ [result]) j last ∧
      decision.outcome = outcomeOf result := by
  induction left generalizing failed j with
  | zero =>
    have attempt := ran
    rw [callFrom.eq_def] at attempt
    obtain ⟨o, next, attempted, -⟩ := Task.run_bind_eq_some attempt
    have counted := timed_counted counts discreet (resultOf o) attempted
    by_cases arrived : Lost o
    · obtain ⟨timedOut, text, rfl⟩ := arrived
      cases (callFrom_gives_up attempted).symm.trans ran
      exact ⟨0, _, counted, rfl⟩
    · obtain ⟨rfl, outcome⟩ := of_callFrom_arrived attempted arrived ran
      exact ⟨0, _, counted, outcome⟩
  | succ left ih =>
    have attempt := ran
    rw [callFrom.eq_def] at attempt
    obtain ⟨o, next, attempted, later⟩ := Task.run_bind_eq_some attempt
    have counted := timed_counted counts discreet (resultOf o) attempted
    by_cases arrived : Lost o
    · obtain ⟨timedOut, text, rfl⟩ := arrived
      obtain ⟨_, tallied, tally, later⟩ := Task.run_bind_eq_some later
      obtain ⟨_, noted, note, later⟩ := Task.run_bind_eq_some later
      obtain ⟨_, waited, wait, later⟩ := Task.run_bind_eq_some later
      obtain ⟨lost, result, rest, outcome⟩ := ih later
      cases (run_count ..).symm.trans tally
      cases (Task.run_note ..).symm.trans note
      exact ⟨lost + 1, result, counted.cons (rest.congr (counted_of_wait wait).symm), outcome⟩
    · obtain ⟨rfl, outcome⟩ := of_callFrom_arrived attempted arrived ran
      exact ⟨0, _, counted, outcome⟩

end Caller

section Filter

variable {d : Delegate} {send : Sending (List Try)} {s : Setting} {deadline : Option Nat}
  {j last : Journal (List Try)} {ctx : Context} {change : Change}

/-- A hook without a target is allowed without an attempt, and any other rests on the last one. -/
inductive Consulted (targets : Targets) (hook : Hook) (j last : Journal (List Try)) :
    Decision → Prop where
  | skipped (untargeted : targets.get hook = none) (same : last.counted = j.counted) :
      Consulted targets hook j last .allow
  | called {lost : Nat} {result : CallResult} {decision : Decision}
      (targeted : targets.get hook ≠ none)
      (counted : Counted hook 0 (List.replicate lost .transportError ++ [result]) j last)
      (outcome : decision.outcome = outcomeOf result) : Consulted targets hook j last decision

theorem consulted_of_call (counts : d.caller.counted = true) (discreet : Discreet send)
    {ending : Admission.Ending}
    (ran : ((d.filterWith (watched send)).call ctx change).run s deadline j =
      (some ending, last)) :
    ∃ decision, ending = .decided decision ∧
      Consulted d.targets change.hook j last decision := by
  obtain ⟨decision, next, ran, ended⟩ := Task.run_bind_eq_some ran
  cases ended
  refine ⟨decision, rfl, ?_⟩
  cases target : d.targets.get change.hook with
  | none =>
    simp only [consult, target] at ran
    cases ran
    exact .skipped target rfl
  | some url =>
    simp only [consult, target] at ran
    obtain ⟨lost, result, counted, outcome⟩ := Caller.callFrom_counted counts discreet ran
    exact .called (by simp [target]) counted outcome

end Filter

/-! Balance. -/

/-- The attempts on a hook after which another one was made in the same call. -/
def retried (hook : Hook) : List Try → Nat
  | [] => 0
  | [_] => 0
  | t :: next :: rest =>
      (if t.hook = hook ∧ next.number ≠ 0 then 1 else 0) + retried hook (next :: rest)

/-- The counters of remote calls agree with each other, with the attempts and with the decisions
that the filter came to. -/
structure Balanced (targets : Targets) (hook : Hook) (j : Journal (List Try)) : Prop where
  timed :
    j.metrics.remoteCalls.get (Metrics.callLabels hook .allowed) +
          j.metrics.remoteCalls.get (Metrics.callLabels hook .denied) +
        j.metrics.remoteCalls.get (Metrics.callLabels hook .badStatus) +
      j.metrics.remoteCalls.get (Metrics.callLabels hook .transportError) =
    j.metrics.remoteCallDuration.count (Metrics.hookLabels hook)
  made : j.metrics.remoteCallDuration.count (Metrics.hookLabels hook) =
    .ofNat (j.memory.countP (·.hook = hook))
  denied : j.metrics.remoteCalls.get (Metrics.callLabels hook .denied) =
    j.metrics.decisions.get (Metrics.decisionLabels hook filterName "denied")
  allowed : targets.get hook ≠ none →
    j.metrics.remoteCalls.get (Metrics.callLabels hook .allowed) =
      j.metrics.decisions.get (Metrics.decisionLabels hook filterName "allowed")
  failed :
    j.metrics.remoteCalls.get (Metrics.callLabels hook .badStatus) +
        j.metrics.remoteCalls.get (Metrics.callLabels hook .transportError) =
      j.metrics.decisions.get (Metrics.decisionLabels hook filterName "unavailable") +
        .ofNat (retried hook j.memory)
  untargeted : targets.get hook = none →
    (∀ key ∈ j.metrics.remoteCalls.keys, ("hook", hook.label) ∉ key) ∧
      ∀ key ∈ j.metrics.remoteCallDuration.keys, ("hook", hook.label) ∉ key

theorem retried_append {hook : Hook} (l : List Try) {t : Try} (first : t.number = 0)
    (rest : List Try) :
    retried hook (l ++ t :: rest) = retried hook l + retried hook (t :: rest) := by
  induction l with
  | nil => simp [retried]
  | cons a l ih =>
    cases l with
    | nil => simp [retried, first]
    | cons b l =>
      simp only [List.cons_append, retried] at ih ⊢
      rw [ih, Nat.add_assoc]

theorem retried_tries (hook hook' : Hook) (first count : Nat) :
    retried hook (tries hook' first (count + 1)) = if hook = hook' then count else 0 := by
  induction count generalizing first with
  | zero => simp [tries, retried]
  | succ count ih =>
    have step : tries hook' first (count + 1 + 1) =
        ⟨hook', first⟩ :: ⟨hook', first + 1⟩ :: tries hook' (first + 1 + 1) count := rfl
    have later : tries hook' (first + 1) (count + 1) =
        ⟨hook', first + 1⟩ :: tries hook' (first + 1 + 1) count := rfl
    rw [step, retried, ← later, ih]
    by_cases same : hook = hook'
    · simp [same, Nat.add_comm]
    · simp [same, Ne.symm same]

section Counted

variable {hook : Hook} {first : Nat} {results : List CallResult} {j last : Journal (List Try)}
variable (counted : Counted hook first results j last)

include counted

theorem Counted.get_remoteCalls (h : Hook) (r : CallResult) :
    last.metrics.remoteCalls.get (Metrics.callLabels h r) =
      j.metrics.remoteCalls.get (Metrics.callLabels h r) +
        if h = hook then .ofNat (results.count r) else 0 := by
  rw [counted.remoteCalls, Metrics.Counter.get_incAll, List.countP_map]
  by_cases same : h = hook
  · have equal : ((fun l => decide (Metrics.Labels.ofList (Metrics.callLabels h r) =
        Metrics.Labels.ofList l)) ∘ Metrics.callLabels hook) = (· == r) := by
      funext r'
      rw [Bool.eq_iff_iff]
      simp only [Function.comp_apply, Metrics.callLabels_inj, same, true_and, decide_eq_true_eq,
        beq_iff_eq]
      exact eq_comm
    rw [equal, if_pos same, List.count]
  · simp [Metrics.callLabels_inj, Function.comp_def, same]

theorem Counted.count_durations (h : Hook) :
    last.metrics.remoteCallDuration.count (Metrics.hookLabels h) =
      j.metrics.remoteCallDuration.count (Metrics.hookLabels h) +
        if h = hook then .ofNat results.length else 0 := by
  obtain ⟨times, length, took⟩ := counted.durations
  rw [took, Metrics.Histogram.count_observeAll, length]
  simp only [Metrics.hookLabels_inj]

/-- Series of another hook are as they were. -/
theorem Counted.mem_remoteCalls {h : Hook} (other : h ≠ hook) {key : Metrics.Labels}
    (member : key ∈ last.metrics.remoteCalls.keys) (carried : ("hook", h.label) ∈ key) :
    key ∈ j.metrics.remoteCalls.keys := by
  rw [counted.remoteCalls, Metrics.Counter.mem_keys_incAll] at member
  refine member.resolve_left ?_
  rintro ⟨labels, made, rfl⟩
  obtain ⟨r, -, rfl⟩ := List.mem_map.mp made
  rw [Metrics.Labels.mem_ofList] at carried
  simp [Metrics.callLabels, Hook.label_inj, other] at carried

theorem Counted.mem_durations {h : Hook} (other : h ≠ hook) {key : Metrics.Labels}
    (member : key ∈ last.metrics.remoteCallDuration.keys) (carried : ("hook", h.label) ∈ key) :
    key ∈ j.metrics.remoteCallDuration.keys := by
  obtain ⟨times, -, took⟩ := counted.durations
  rw [took] at member
  refine (Metrics.Histogram.mem_keys_observeAll member).resolve_left ?_
  rintro rfl
  rw [Metrics.Labels.mem_ofList] at carried
  simp [Metrics.hookLabels, Hook.label_inj, other] at carried

theorem Counted.countP_memory (h : Hook) :
    last.memory.countP (·.hook = h) =
      j.memory.countP (·.hook = h) + if h = hook then results.length else 0 := by
  rw [counted.memory, List.countP_append, tries, List.countP_map]
  by_cases same : h = hook
  · simp [same, Function.comp_def]
  · simp [same, Ne.symm same, Function.comp_def]

end Counted

section Record

variable {targets : Targets} {hook : Hook} {j last : Journal (List Try)}

/-- Only the counters and the tries matter, and of the decisions only the filter's own. -/
theorem Balanced.congr (balanced : Balanced targets hook j)
    (calls : last.metrics.remoteCalls = j.metrics.remoteCalls)
    (durations : last.metrics.remoteCallDuration = j.metrics.remoteCallDuration)
    (memory : last.memory = j.memory)
    (decisions : ∀ outcome,
      last.metrics.decisions.get (Metrics.decisionLabels hook filterName outcome) =
        j.metrics.decisions.get (Metrics.decisionLabels hook filterName outcome)) :
    Balanced targets hook last := by
  constructor
  case timed => simpa only [calls, durations] using balanced.timed
  case made => simpa only [durations, memory] using balanced.made
  case denied => simpa only [calls, decisions] using balanced.denied
  case allowed => simpa only [calls, decisions] using balanced.allowed
  case failed => simpa only [calls, memory, decisions] using balanced.failed
  case untargeted => simpa only [calls, durations] using balanced.untargeted

theorem get_record (hook h : Hook) (name : String) (ctx : Context) (d : Decision)
    (j : Journal (List Try)) (outcome : String) :
    (Chain.record h name ctx d j).metrics.decisions.get
        (Metrics.decisionLabels hook filterName outcome) =
      j.metrics.decisions.get (Metrics.decisionLabels hook filterName outcome) +
        if hook = h ∧ filterName = name ∧ outcome = d.outcome then 1 else 0 := by
  simp only [← Metrics.decisionLabels_inj]
  exact Metrics.Counter.get_inc

/-- A decision of another filter, or of the chain itself. -/
theorem Balanced.record_other (balanced : Balanced targets hook j) {h : Hook} {name : String}
    (other : name ≠ filterName) (ctx : Context) (d : Decision) :
    Balanced targets hook (Chain.record h name ctx d j) := by
  refine balanced.congr rfl rfl rfl fun outcome => ?_
  rw [get_record, if_neg fun same => other same.2.1.symm, UInt64.add_zero]

@[simp]
theorem record_remoteCalls (h : Hook) (name : String) (ctx : Context) (d : Decision) :
    (Chain.record h name ctx d j).metrics.remoteCalls = j.metrics.remoteCalls := rfl

@[simp]
theorem record_remoteCallDuration (h : Hook) (name : String) (ctx : Context) (d : Decision) :
    (Chain.record h name ctx d j).metrics.remoteCallDuration = j.metrics.remoteCallDuration := rfl

theorem count_results (lost : Nat) (result r : CallResult) :
    UInt64.ofNat ((List.replicate lost CallResult.transportError ++ [result]).count r) =
      (if r = .transportError then .ofNat lost else 0) + if r = result then 1 else 0 := by
  rw [List.count_append, List.count_replicate, List.count_singleton, UInt64.ofNat_add]
  congr 1
  · cases r <;> simp
  · cases r <;> cases result <;> rfl

/-- A hook without a target is only counted as allowed. -/
theorem Balanced.record_skipped (balanced : Balanced targets hook j) {h : Hook}
    (untargeted : targets.get h = none) (same : last.counted = j.counted) (ctx : Context) :
    Balanced targets hook (Chain.record h filterName ctx .allow last) := by
  obtain ⟨metrics, memory⟩ := Prod.mk.inj same
  have decided (outcome : String) (blocks : outcome ≠ "allowed") :
      (Chain.record h filterName ctx .allow last).metrics.decisions.get
          (Metrics.decisionLabels hook filterName outcome) =
        j.metrics.decisions.get (Metrics.decisionLabels hook filterName outcome) := by
    rw [get_record, if_neg fun same => blocks same.2.2, UInt64.add_zero, metrics]
  constructor
  case timed =>
    simpa only [record_remoteCalls, record_remoteCallDuration, metrics] using balanced.timed
  case made =>
    simpa only [record_remoteCallDuration, Chain.record_memory, metrics, memory] using balanced.made
  case denied =>
    rw [record_remoteCalls, decided "denied" (by decide), metrics]
    exact balanced.denied
  case allowed =>
    intro targeted
    have other : hook ≠ h := by
      rintro rfl
      exact targeted untargeted
    rw [record_remoteCalls, get_record, if_neg fun same => other same.1, UInt64.add_zero, metrics]
    exact balanced.allowed targeted
  case failed =>
    rw [record_remoteCalls, decided "unavailable" (by decide), Chain.record_memory, metrics, memory]
    exact balanced.failed
  case untargeted =>
    simpa only [record_remoteCalls, record_remoteCallDuration, metrics] using balanced.untargeted

/-- Attempts are counted on both sides, each lost one as a failure and the last one as what it
decides. -/
theorem Balanced.record_called (balanced : Balanced targets hook j) {h : Hook} {lost : Nat}
    {result : CallResult} {d : Decision} (targeted : targets.get h ≠ none)
    (counted : Counted h 0 (List.replicate lost .transportError ++ [result]) j last)
    (outcome : d.outcome = outcomeOf result) (ctx : Context) :
    Balanced targets hook (Chain.record h filterName ctx d last) := by
  have calls (r : CallResult) := counted.get_remoteCalls hook r
  have times := counted.count_durations hook
  have made := counted.countP_memory hook
  have again : retried hook last.memory =
      retried hook j.memory + if hook = h then lost else 0 := by
    rw [counted.memory, tries, List.length_append, List.length_replicate]
    refine (retried_append _ rfl _).trans (congrArg _ ?_)
    exact retried_tries hook h 0 lost
  have decided (o : String) := get_record hook h filterName ctx d last o
  simp only [count_results, List.length_append, List.length_replicate, List.length_singleton,
    true_and, counted.decisions, outcome] at calls times made decided
  constructor
  case timed =>
    have before := balanced.timed
    simp only [record_remoteCalls, record_remoteCallDuration, calls, times, UInt64.ofNat_add]
    by_cases here : hook = h <;> cases result <;> grind
  case made =>
    have before := balanced.made
    simp only [record_remoteCallDuration, Chain.record_memory, times, made, before,
      UInt64.ofNat_add]
    by_cases here : hook = h <;> simp [here]
  case denied =>
    simp only [record_remoteCalls, calls, decided, balanced.denied]
    by_cases here : hook = h <;> cases result <;> simp [here, outcomeOf]
  case allowed =>
    intro given
    simp only [record_remoteCalls, calls, decided, balanced.allowed given]
    by_cases here : hook = h <;> cases result <;> simp [here, outcomeOf]
  case failed =>
    have before := balanced.failed
    simp only [record_remoteCalls, Chain.record_memory, calls, decided, again, UInt64.ofNat_add]
    by_cases here : hook = h <;> cases result <;> simp [here, outcomeOf] <;> grind
  case untargeted =>
    intro none
    obtain ⟨noCalls, noDurations⟩ := balanced.untargeted none
    have other : hook ≠ h := by
      rintro rfl
      exact targeted none
    exact ⟨fun key member carried =>
        noCalls key (counted.mem_remoteCalls other member carried) carried,
      fun key member carried =>
        noDurations key (counted.mem_durations other member carried) carried⟩

end Record

/-! Runs. -/

/-- What a chain has for filters: delegates that were resolved to the same targets, and filters of
other names that make no remote calls. -/
inductive Member (send : Sending (List Try)) (targets : Targets) (f : Filter (List Try)) :
    Prop where
  | bystander (other : f.name ≠ filterName)
      (quiet : ∀ ctx change, (f.call ctx change).Keeps Journal.counted)
  | delegate (d : Delegate) (resolved : d.targets = targets) (counts : d.caller.counted = true)
      (same : f = d.filterWith (watched send))

section Runs

open Chain

variable {c : Chain (List Try)} {v : Visit} {send : Sending (List Try)} {targets : Targets}
  {hook : Hook} {j last : Journal (List Try)}

theorem Member.balanced {f : Filter (List Try)} (member : Member send targets f)
    (discreet : Discreet send) {deadline : Option Nat} {ending : Admission.Ending}
    (ran : (f.call v.context v.change).run v.setting deadline j = (some ending, last))
    (balanced : Balanced targets hook j) :
    Balanced targets hook
      (record v.change.hook f.name v.context (c.verdict v (f, some ending)) last) := by
  cases member with
  | bystander other quiet =>
    have kept := quiet v.context v.change v.setting deadline j
    rw [ran] at kept
    obtain ⟨metrics, memory⟩ := Prod.mk.inj kept
    refine Balanced.record_other (balanced.congr ?_ ?_ memory fun o => ?_) other _ _
    · exact congrArg Metrics.remoteCalls metrics
    · exact congrArg Metrics.remoteCallDuration metrics
    · exact congrArg (fun m : Metrics => m.decisions.get _) metrics
  | delegate d resolved counts same =>
    subst same resolved
    obtain ⟨decision, rfl, consulted⟩ := consulted_of_call counts discreet ran
    cases consulted with
    | skipped untargeted same => exact balanced.record_skipped untargeted same v.context
    | called targeted counted outcome =>
      exact balanced.record_called targeted counted outcome v.context

theorem balanced_of_traced {deadline : Nat} {fs : List (Filter (List Try))}
    {calls : List (Filter (List Try) × Option Admission.Ending)} {d : Decision}
    (traced : Traced c v deadline fs j calls d last) (members : ∀ f ∈ fs, Member send targets f)
    (discreet : Discreet send) (finished : ∀ call ∈ calls, call.2 ≠ none)
    (balanced : Balanced targets hook j) : Balanced targets hook last := by
  induction traced with
  | allowed j => exact balanced
  | @goesOn f rest j after last ending calls d ran allows more ih =>
    obtain ⟨ending, rfl⟩ := Option.ne_none_iff_exists'.mp (finished (f, ending) (by simp))
    have next := (members f (by simp)).balanced (c := c) discreet ran balanced
    rw [allows] at next
    exact ih (fun f member => members f (by simp [member]))
      (fun call member => finished call (by simp [member])) next
  | @stopped f rest j after ending d ran decides stop =>
    obtain ⟨ending, rfl⟩ := Option.ne_none_iff_exists'.mp (finished (f, ending) (by simp))
    have next := (members f (by simp)).balanced (c := c) discreet ran balanced
    rwa [decides] at next

theorem balanced_answer (members : ∀ f ∈ c.filters, Member send targets f)
    (discreet : Discreet send) (finishes : c.Finishes v j) (balanced : Balanced targets hook j) :
    Balanced targets hook (c.answer v j).2 := by
  by_cases asked : Sound v.context v.change ∧ v.context.projectId ∉ c.exemptProjects ∧ c.Reaches v
  · obtain ⟨sound, unlisted, reached⟩ := asked
    obtain ⟨d, -, traced⟩ := traced_answer sound unlisted reached j
    exact balanced_of_traced traced members discreet (finishes sound unlisted reached) balanced
  · obtain ⟨reports, evaluated⟩ := evaluated_answer c v j
    generalize c.answer v j = r at evaluated
    obtain ⟨ending, last⟩ := r
    cases evaluated with
    | malformed broken => exact balanced.record_other (by decide) _ _
    | exempt excused => exact balanced.congr rfl rfl rfl fun _ => rfl
    | scanned sound unlisted reached _ => exact absurd ⟨sound, unlisted, reached⟩ asked
    | beyond => exact balanced

theorem balanced_run (members : ∀ f ∈ c.filters, Member send targets f)
    (discreet : Discreet send) {visits : List Visit} (finish : c.FinishAll visits j)
    (balanced : Balanced targets hook j) : Balanced targets hook (c.run visits j).2 := by
  induction visits generalizing j with
  | nil => exact balanced
  | cons v rest ih =>
    exact ih finish.2 (balanced_answer members discreet finish.1 balanced)

theorem of_ofSection {service : ServiceSection} {counted : Bool} {d : Delegate}
    (built : ofSection service counted = .ok d) :
    Targets.resolve service = .ok d.targets ∧ d.caller.counted = counted := by
  obtain ⟨token, -, built⟩ := of_bind_ok built
  obtain ⟨resolved, same, built⟩ := of_bind_ok built
  cases built
  exact ⟨same, rfl⟩

theorem member_of_built {sections : FiltersSection} {service : ServiceSection}
    (given : sections.service = some service) (resolved : Targets.resolve service = .ok targets)
    {name : String} {f : Filter (List Try)}
    (built : Registry.Built (watched send) sections name f) : Member send targets f := by
  cases built with
  | delegate named given' made =>
    cases given.symm.trans given'
    obtain ⟨resolved', counts⟩ := of_ofSection made
    cases resolved.symm.trans resolved'
    exact .delegate _ rfl counts rfl
  | lengthLimit =>
    exact .bystander (show LengthLimit.filterName ≠ filterName by decide)
      (LengthLimit.keeps_filter (fun _ _ => rfl) _)

/-- Nothing counted and nothing tried yet. -/
def untried (j : Journal (List Try)) : Journal (List Try) := { j with metrics := {}, memory := [] }

theorem balanced_untried (targets : Targets) (hook : Hook) (j : Journal (List Try)) :
    Balanced targets hook (untried j) := by
  constructor <;> simp [untried, retried, Table.keys]

/-- After every run of a chain from a configuration, in which no filter was cut off, the counters
of remote calls balance, whatever the attempts come to. -/
theorem run_balanced {config : Config} {events : List Event} (discreet : Discreet send)
    (built : Chain.ofConfig config (Registry.builtinWith (watched send)) = .ok (c, events))
    (enabled : filterName ∈ config.enforcement.enabledFilters) (visits : List Visit)
    (j : Journal (List Try)) (finish : c.FinishAll visits (untried j)) :
    ∃ service targets, config.filters.service = some service ∧
      Targets.resolve service = .ok targets ∧
      ∀ hook, Balanced targets hook (c.run visits (untried j)).2 := by
  obtain ⟨names, filters⟩ := Chain.of_ofConfig built
  obtain ⟨f, first⟩ := names filterName enabled
  cases Registry.built_of_build first with
  | lengthLimit named => exact absurd named (by decide)
  | @delegate service d named given made =>
    obtain ⟨resolved, -⟩ := of_ofSection made
    refine ⟨service, d.targets, given, resolved, fun hook => ?_⟩
    refine balanced_run (fun f member => ?_) discreet finish (balanced_untried d.targets hook j)
    obtain ⟨name, made⟩ := filters f member
    exact member_of_built given resolved (Registry.built_of_build made)

/-! The delegates' own attempts. -/

theorem discreet_sendAttempt : Discreet sendAttempt := fun d _ url body _ =>
  keeps_attempt (fun _ _ => rfl) (fun _ _ => rfl) d.sender url body

/-- The same but for what filters remember. -/
structure Alike {σ σ' : Type} (j : Journal σ) (j' : Journal σ') : Prop where
  elapsed : j.elapsed = j'.elapsed
  exchanges : j.exchanges = j'.exchanges
  metrics : j.metrics = j'.metrics
  events : j.events = j'.events

theorem mirrors_alike {σ σ' : Type} :
    Task.Mirrors (Alike : Journal σ → Journal σ' → Prop) where
  clock alike := alike.elapsed
  moves alike _ := { alike with elapsed := rfl }
  counts alike f := { alike with metrics := congrArg f alike.metrics }
  notes alike e := { alike with events := congrArg (· ++ [e]) alike.events }

theorem agrees_watched {σ : Type} (d : Delegate) (hook : Hook) (url : Url) (body : String)
    (n : Nat) :
    Task.Agrees Eq (Alike : Journal σ → Journal (List Try) → Prop) Eq
      (sendAttempt d hook url body n) (watched sendAttempt d hook url body n) :=
  fun s s' deadline j j' settings alike =>
    agrees_sendAttempt mirrors_alike Alike.exchanges
      (fun alike x => { alike with exchanges := congrArg (· ++ [x]) alike.exchanges })
      d hook url body n s s' deadline j { j' with memory := j'.memory ++ [⟨hook, n⟩] } settings
      { alike with }

/-- Watching attempts changes nothing else: the chain comes to the same ends, counters and log as
without. -/
theorem run_watched {σ : Type} {config : Config} {plain : Chain σ} {events events' : List Event}
    (built : Chain.ofConfig config Registry.builtin = .ok (plain, events))
    (built' : Chain.ofConfig config (Registry.builtinWith (watched sendAttempt)) = .ok (c, events'))
    (visits : List Visit) {j : Journal σ} {j' : Journal (List Try)} (alike : Alike j j') :
    (plain.run visits j).1 = (c.run visits j').1 ∧
      Alike (plain.run visits j).2 (c.run visits j').2 := by
  have chains : Chain.Agrees Eq Alike plain c := by
    rw [← Registry.builtinWith_sendAttempt] at built
    refine Chain.agrees_of_builtinWith mirrors_alike (congrArg Setting.now) built built' rfl rfl ?_
    rintro _ _ d d' given given' made made'
    cases given.symm.trans given'
    cases made.symm.trans made'
    exact ⟨rfl, agrees_call mirrors_alike _ _ rfl rfl (agrees_watched d)⟩
  exact Chain.agrees_run mirrors_alike (congrArg Setting.uptime) chains
    (List.forall₂_same.mpr fun v _ => ⟨rfl, rfl, rfl⟩) alike

-- The first request of the run is lost, and the second hook has no target.
theorem run_balanced_retry :
    let u : Url := { scheme := Url.http, host := some (.name ['h']), path := .segments [['c']] }
    let d : Delegate :=
      { targets := ⟨some u, none, none⟩
        sender := ⟨⟨5000 * nanosPerMilli, 2000 * nanosPerMilli⟩, .bearer, .fixed "t"⟩
        caller := ⟨true, 1, .ofMillis 100, .ofMillis 2000⟩ }
    let c : Chain (List Try) := ⟨[d.filterWith (watched sendAttempt)], [], .ofMillis 30000⟩
    let section' : ServiceSection :=
      { checkCreateUrl := some "http://h/c", token := some "t", maxRetries := 1 }
    let config : Config :=
      { version := 1
        enforcement := { enabledFilters := [filterName] }
        filters := { service := some section' } }
    let service : Service := fun before _ =>
      if before.isEmpty then ⟨some 0, .refused⟩ else ⟨some 7, .response 204 ⟨some 0, some []⟩⟩
    let visit (change : Change) : Visit :=
      ⟨⟨⟨0, 0, 0⟩, [], service, .zero⟩, ⟨"u", "p", "a", "r"⟩, change⟩
    let lease : Lease := ⟨none, none, ⟨0, 0, 0⟩, ⟨1, 0, 0⟩, []⟩
    let visits := [visit (.create lease), visit (.onEnd lease)]
    let j : Journal (List Try) := { memory := [] }
    (∃ events, Chain.ofConfig config (Registry.builtinWith (watched sendAttempt)) =
        .ok (c, events)) ∧ c.FinishAll visits (untried j) ∧
      (∃ targets, Targets.resolve section' = .ok targets ∧
        ∀ hook, Balanced targets hook (c.run visits (untried j)).2) ∧
      retried .create (c.run visits (untried j)).2.memory = 1 := by
  intro u d c section' config service visit lease visits j
  have resolved : Targets.resolve section' = .ok ⟨some u, none, none⟩ := by decide +kernel
  have made : ofSection section' true = .ok d := by
    simp only [ofSection, resolved]
    rfl
  have first : (Registry.builtinWith (watched sendAttempt)).build filterName config.filters =
      .ok (d.filterWith (watched sendAttempt)) := congrArg (Except.map (filterWith _)) made
  have built : Chain.ofConfig config (Registry.builtinWith (watched sendAttempt)) =
      .ok (c, [Chain.builtEvent config c.filters]) := by
    unfold Chain.ofConfig Chain.buildAll
    rw [first]
    rfl
  have finish : c.FinishAll visits (untried j) := by decide +kernel
  obtain ⟨service', targets, given, same, balanced⟩ :=
    run_balanced discreet_sendAttempt built (by decide) visits j finish
  cases given
  exact ⟨⟨_, built⟩, finish, ⟨targets, same, balanced⟩, by decide +kernel⟩

end Runs

end Delegate

end Admission
