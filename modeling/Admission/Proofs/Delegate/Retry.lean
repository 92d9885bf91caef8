import Admission.Delegate.Basic
import Admission.Proofs.Task
/-!
Calls of the policy service, attempt by attempt. An attempt whose request or response was lost is
made again while retries are left; any other settles the call. The main statement is about
attempts that follow a script, and says which are made, when, and what the call comes to. What a
deadline leaves of such a call is the first of these attempts.
-/

namespace Admission.Delegate

variable {σ : Type}

/-- No response came, and asking again may help. -/
def Lost (o : Outcome) : Prop := ∃ timedOut text, o = .error (.transport timedOut text)

/-- What an attempt settles. -/
def settled? : Outcome → Option Decision
  | .ok r =>
      some (
        if r.status = 204 then .allow
        else if r.status = forbidden then .deny filterName (denyReason r.body)
        else .error filterName ("external policy service returned HTTP " ++ toString r.status ++
          "; only 204 and 403 are supported"))
  | .error (.fatal reason) => some (.error filterName reason)
  | .error (.transport _ _) => none

theorem settled_of_not_lost {o : Outcome} (arrived : ¬ Lost o) : ∃ d, settled? o = some d := by
  cases o with
  | ok r => exact ⟨_, rfl⟩
  | error f =>
    cases f with
    | fatal reason => exact ⟨_, rfl⟩
    | transport timedOut text => exact absurd ⟨timedOut, text, rfl⟩ arrived

theorem settled_allow_iff {o : Outcome} {d : Decision} (settles : settled? o = some d) :
    d = .allow ↔ ∃ body, o = .ok ⟨204, body⟩ := by
  cases o with
  | error f => cases f <;> simp_all [settled?]; subst settles; simp
  | ok r =>
    obtain ⟨status, body⟩ := r
    simp only [settled?, Option.some.injEq] at settles
    subst settles
    split
    · simp_all
    · split <;> simp_all

theorem settled_deny_iff {o : Outcome} {d : Decision} (settles : settled? o = some d) :
    (∃ filter reason, d = .deny filter reason) ↔ ∃ body, o = .ok ⟨403, body⟩ := by
  cases o with
  | error f => cases f <;> simp_all [settled?]; subst settles; simp
  | ok r =>
    obtain ⟨status, body⟩ := r
    simp only [settled?, Option.some.injEq] at settles
    subst settles
    split
    · simp_all
    · split <;> simp_all [forbidden]

namespace Caller

/-- How counting changes a journal. -/
def counting (c : Caller) (f : Metrics → Metrics) (j : Journal σ) : Journal σ :=
  if c.counted then j.count f else j

@[simp]
theorem counting_memory (c : Caller) (f : Metrics → Metrics) (j : Journal σ) :
    (c.counting f j).memory = j.memory := by
  unfold counting; split <;> rfl

@[simp]
theorem counting_elapsed (c : Caller) (f : Metrics → Metrics) (j : Journal σ) :
    (c.counting f j).elapsed = j.elapsed := by
  unfold counting; split <;> rfl

@[simp]
theorem run_count (c : Caller) (f : Metrics → Metrics) (s : Setting) (deadline : Option Nat)
    (j : Journal σ) : (c.count f).run s deadline j = (some (), c.counting f j) := by
  unfold count counting; split <;> rfl

variable {c : Caller} {hook : Hook} {url : Url} {s : Setting} {deadline : Option Nat}
  {j next : Journal σ}

theorem run_timed {attempt : Task σ Outcome} {o : Outcome}
    (ran : attempt.run s deadline j = (some o, next)) :
    (c.timed hook attempt).run s deadline j =
      (some o,
        c.counting (Metrics.observeCall hook (.ofNanos (next.elapsed - j.elapsed))) next) := by
  unfold timed
  rw [Task.run_bind_some (Task.run_journal ..), Task.run_bind_some ran,
    Task.run_bind_some (Task.run_journal ..), Task.run_bind_some (run_count ..)]
  rfl

/-- How an attempt that ends the call is counted. -/
def resultOf : Outcome → CallResult
  | .ok r =>
      if r.status = 204 then .allowed else if r.status = forbidden then .denied else .badStatus
  | .error _ => .transportError

theorem callFrom_settles {send : Nat → Task σ Outcome} {left failed : Nat} {o : Outcome}
    {d : Decision} (ran : (c.timed hook (send failed)).run s deadline j = (some o, next))
    (settles : settled? o = some d) :
    (c.callFrom hook url send left failed).run s deadline j =
      (some d, c.counting (Metrics.countCall hook (resultOf o)) next) := by
  rw [callFrom.eq_def, Task.run_bind_some ran]
  cases o with
  | error f =>
    cases f with
    | fatal reason =>
      cases settles
      rw [Task.run_bind_some (run_count ..)]
      rfl
    | transport timedOut text => cases settles
  | ok r =>
    simp only [settled?, Option.some.injEq] at settles
    subst settles
    simp only [finish, resultOf]
    split
    · rw [Task.run_bind_some (run_count ..)]; rfl
    · split
      · rw [Task.run_bind_some (run_count ..)]; rfl
      · rw [Task.run_bind_some (run_count ..)]; rfl

theorem callFrom_gives_up {send : Nat → Task σ Outcome} {failed : Nat} {timedOut : Bool}
    {text : String} (ran : (c.timed hook (send failed)).run s deadline j =
      (some (.error (.transport timedOut text)), next)) :
    (c.callFrom hook url send 0 failed).run s deadline j =
      (some (unreachable (failed + 1) timedOut text),
        c.counting (Metrics.countCall hook .transportError) next) := by
  rw [callFrom.eq_def, Task.run_bind_some ran]
  simp only
  rw [Task.run_bind_some (run_count ..)]
  rfl

/-- What stands in the journal when a retry starts. -/
def retrying (c : Caller) (hook : Hook) (url : Url) (failed : Nat) (text : String)
    (j : Journal σ) : Journal σ :=
  let delay := c.retry.delay (failed + 1)
  let noted := (c.counting (Metrics.countCall hook .transportError) j).note
    (.retrying hook url.write (failed + 1) (min delay.millis (UInt64.size - 1)) text)
  { noted with elapsed := noted.elapsed + delay.nanos }

@[simp]
theorem retrying_memory (c : Caller) (failed : Nat) (text : String) (j : Journal σ) :
    (c.retrying hook url failed text j).memory = j.memory := by
  simp [retrying, Journal.note]

@[simp]
theorem retrying_elapsed (c : Caller) (failed : Nat) (text : String) (j : Journal σ) :
    (c.retrying hook url failed text j).elapsed =
      j.elapsed + (c.retry.delay (failed + 1)).nanos := by
  simp [retrying, Journal.note]

theorem callFrom_retries {send : Nat → Task σ Outcome} {left failed : Nat} {timedOut : Bool}
    {text : String} (ran : (c.timed hook (send failed)).run s none j =
      (some (.error (.transport timedOut text)), next)) :
    (c.callFrom hook url send (left + 1) failed).run s none j =
      (c.callFrom hook url send left (failed + 1)).run s none
        (c.retrying hook url failed text next) := by
  rw [callFrom.eq_def, Task.run_bind_some ran]
  simp only
  rw [Task.run_bind_some (run_count ..), Task.run_bind_some (Task.run_note ..),
    Task.run_bind_some (Task.run_wait_unlimited ..)]
  rfl

end Caller

/-- An attempt as the policy service sees it, and the moment at which it is made. -/
structure Attempt where
  number : Nat
  url : Url
  body : String
  start : Nat

/-- What attempts come to, each after some time of its own. -/
structure Script where
  outcome : Nat → Outcome
  takes : Nat → Nat

namespace Script

def noted (url : Url) (body : String) (failed : Nat) (j : Journal (List Attempt)) :
    Journal (List Attempt) :=
  { j with memory := j.memory ++ [⟨failed, url, body, j.elapsed⟩] }

def send (script : Script) (url : Url) (body : String) (failed : Nat) :
    Task (List Attempt) Outcome := do
  Task.update (noted url body failed)
  Task.wait (script.takes failed)
  return script.outcome failed

/-- An attempt begins when the one before it has ended and one delay has passed. -/
def begins (script : Script) (retry : Retry) (start : Nat) : Nat → Nat
  | 0 => start
  | n + 1 => script.begins retry start n + script.takes n + (retry.delay (n + 1)).nanos

def attempt (script : Script) (retry : Retry) (start : Nat) (url : Url) (body : String)
    (n : Nat) : Attempt :=
  ⟨n, url, body, script.begins retry start n⟩

variable (hook : Hook) (url : Url) (body : String) (s : Setting)

theorem run_attempt (script : Script) (c : Caller) (n : Nat) (j : Journal (List Attempt)) :
    ∃ next, (c.timed hook (script.send url body n)).run s none j = (some (script.outcome n), next) ∧
      next.memory = j.memory ++ [⟨n, url, body, j.elapsed⟩] ∧
      next.elapsed = j.elapsed + script.takes n := by
  have ran : (script.send url body n).run s none j =
      (some (script.outcome n),
        { noted url body n j with elapsed := j.elapsed + script.takes n }) := by
    unfold send
    rw [Task.run_bind_some (Task.run_update ..), Task.run_bind_some (Task.run_wait_unlimited ..)]
    rfl
  exact ⟨_, Caller.run_timed ran, by simp [noted], by simp⟩

/-- The attempts that are lost while retries are left are made one after the other, each after its
delay, and leave the call where it starts the next one. -/
theorem callFrom_after_lost (script : Script) (c : Caller) (n more : Nat)
    (j : Journal (List Attempt)) (lost : ∀ i < n, Lost (script.outcome i)) :
    ∃ next,
      (c.callFrom hook url (script.send url body) (n + more) 0).run s none j =
        (c.callFrom hook url (script.send url body) more n).run s none next ∧
      next.memory = j.memory ++
        (List.range n).map (script.attempt c.retry j.elapsed url body) ∧
      next.elapsed = script.begins c.retry j.elapsed n := by
  induction n generalizing more with
  | zero => exact ⟨j, by rw [Nat.zero_add], by simp, rfl⟩
  | succ n ih =>
    obtain ⟨middle, reached, made, clock⟩ :=
      ih (more + 1) (fun i below => lost i (Nat.lt_succ_of_lt below))
    obtain ⟨timedOut, text, fails⟩ := lost n (Nat.lt_succ_self n)
    obtain ⟨after, ran, added, later⟩ :=
      run_attempt hook url body s script c n middle
    rw [fails] at ran
    refine ⟨c.retrying hook url n text after, ?_, ?_, ?_⟩
    · rw [Nat.add_right_comm, Nat.add_assoc, reached, Caller.callFrom_retries ran]
    · rw [Caller.retrying_memory, added, made, clock, List.range_succ, List.map_append,
        List.append_assoc]
      rfl
    · rw [Caller.retrying_elapsed, later, clock]
      rfl

/-- What stands in the journal once attempt `n` was the last one. -/
theorem last_attempt (script : Script) (c : Caller) (n : Nat) (j middle : Journal (List Attempt))
    (made : middle.memory = j.memory ++
      (List.range n).map (script.attempt c.retry j.elapsed url body))
    (clock : middle.elapsed = script.begins c.retry j.elapsed n) :
    ∃ next, (c.timed hook (script.send url body n)).run s none middle =
        (some (script.outcome n), next) ∧
      next.memory = j.memory ++
        (List.range (n + 1)).map (script.attempt c.retry j.elapsed url body) ∧
      next.elapsed = script.begins c.retry j.elapsed n + script.takes n := by
  obtain ⟨next, ran, added, later⟩ :=
    run_attempt hook url body s script c n middle
  refine ⟨next, ran, ?_, by rw [later, clock]⟩
  rw [added, made, clock, List.range_succ, List.map_append, List.append_assoc]
  rfl

end Script

/-- A hook without a target is allowed and nothing is attempted. Otherwise the first attempt that
is not lost settles the call, if the retries reach it, and is the last one made; and if none of
them arrives, the call fails and says how many were made. All attempts ask the same, and between
the end of one and the start of the next lies the delay of that retry and nothing else. -/
theorem consult_retry_protocol (d : Delegate) (script : Script) (hook : Hook) (body : String)
    (s : Setting) (j : Journal (List Attempt)) :
    let r := (d.consult script.send hook body).run s none j
    let retry := d.caller.retry
    (d.targets.get hook = none → r.1 = some .allow ∧ r.2.memory = j.memory) ∧
    ∀ url, d.targets.get hook = some url →
      (∀ k ≤ retry.limit, (∀ i < k, Lost (script.outcome i)) → ¬ Lost (script.outcome k) →
        ∃ decision, r.1 = some decision ∧ settled? (script.outcome k) = some decision ∧
          (decision = .allow ↔ ∃ text, script.outcome k = .ok ⟨204, text⟩) ∧
          ((∃ filter reason, decision = .deny filter reason) ↔
            ∃ text, script.outcome k = .ok ⟨403, text⟩) ∧
          r.2.memory = j.memory ++
            (List.range (k + 1)).map (script.attempt retry j.elapsed url body) ∧
          r.2.elapsed = script.begins retry j.elapsed k + script.takes k) ∧
      ((∀ i ≤ retry.limit, Lost (script.outcome i)) →
        ∃ why, r.1 = some (.error filterName ("external policy service unreachable after " ++
            toString (retry.limit + 1) ++ " attempt(s): " ++ why)) ∧
          r.2.memory = j.memory ++
            (List.range (retry.limit + 1)).map (script.attempt retry j.elapsed url body) ∧
          r.2.elapsed = script.begins retry j.elapsed retry.limit + script.takes retry.limit) := by
  intro r retry
  refine ⟨?untargeted, ?targeted⟩
  case untargeted =>
    intro none
    simp only [r, consult, none]
    exact ⟨rfl, rfl⟩
  case targeted =>
    intro url target
    constructor
    · intro k enough lost arrived
      obtain ⟨more, split⟩ := Nat.exists_eq_add_of_le enough
      obtain ⟨middle, reached, made, clock⟩ :=
        Script.callFrom_after_lost hook url body s script d.caller k more j lost
      obtain ⟨decision, settles⟩ := settled_of_not_lost arrived
      obtain ⟨next, ran, memory, elapsed⟩ :=
        Script.last_attempt hook url body s script d.caller k j middle made clock
      have result : r = (some decision,
          d.caller.counting
            (Metrics.countCall hook (Caller.resultOf (script.outcome k))) next) := by
        simp only [r, consult, target, Caller.call]
        rw [show d.caller.retry.limit = k + more from split, reached,
          Caller.callFrom_settles ran settles]
      rw [result]
      exact ⟨decision, rfl, settles, settled_allow_iff settles, settled_deny_iff settles,
        by simpa using memory, by simpa using elapsed⟩
    · intro lost
      obtain ⟨middle, reached, made, clock⟩ :=
        Script.callFrom_after_lost hook url body s script d.caller retry.limit 0 j
          (fun i below => lost i (Nat.le_of_lt below))
      obtain ⟨timedOut, text, fails⟩ := lost retry.limit (Nat.le_refl _)
      obtain ⟨next, ran, memory, elapsed⟩ :=
        Script.last_attempt hook url body s script d.caller retry.limit j middle made clock
      rw [fails] at ran
      have result : r = (some (Caller.unreachable (retry.limit + 1) timedOut text),
          d.caller.counting (Metrics.countCall hook .transportError) next) := by
        simp only [r, consult, target, Caller.call]
        exact reached.trans (Caller.callFrom_gives_up ran)
      rw [result]
      exact ⟨Caller.describe timedOut text, rfl, by simpa using memory, by simpa using elapsed⟩

/-! Calls that a deadline may cut off. -/

/-- The attempts of a call, each behind the delay of its retry. -/
structure Spaced (script : Script) (retry : Retry) (made : List Attempt) : Prop where
  length : made.length ≤ retry.limit + 1
  number : ∀ (i : Nat) (a : Attempt), made[i]? = some a → a.number = i
  start : ∀ (i : Nat) (a b : Attempt), made[i]? = some a → made[i + 1]? = some b →
    b.start = a.start + script.takes i + (retry.delay (i + 1)).nanos

theorem spaced_nil (script : Script) (retry : Retry) : Spaced script retry [] :=
  ⟨Nat.zero_le _, by simp, by simp⟩

theorem spaced_attempts (script : Script) (retry : Retry) (start : Nat) (url : Url) (body : String)
    {n : Nat} (few : n ≤ retry.limit + 1) :
    Spaced script retry ((List.range n).map (script.attempt retry start url body)) := by
  have found (i : Nat) (a : Attempt)
      (stands : ((List.range n).map (script.attempt retry start url body))[i]? = some a) :
      a = script.attempt retry start url body i := by
    rw [List.getElem?_map, Option.map_eq_some_iff] at stands
    obtain ⟨at', inside, rfl⟩ := stands
    obtain ⟨_, same⟩ := List.getElem?_eq_some_iff.mp inside
    rw [List.getElem_range] at same
    rw [same]
  refine ⟨by simpa using few, ?number, ?start⟩
  case number =>
    intro i a first
    rw [found i a first]
    rfl
  case start =>
    intro i a b first second
    rw [found i a first, found (i + 1) b second]
    rfl

/-- A deadline cuts off the attempt itself, but not that it was made. -/
theorem run_attempt_until (script : Script) (c : Caller) (hook : Hook) (url : Url) (body : String)
    (s : Setting) (deadline : Option Nat) (n : Nat) (j : Journal (List Attempt)) :
    ∃ result next, (c.timed hook (script.send url body n)).run s deadline j = (result, next) ∧
      next.memory = j.memory ++ [⟨n, url, body, j.elapsed⟩] ∧
      (result = none ∨
        result = some (script.outcome n) ∧ next.elapsed = j.elapsed + script.takes n) := by
  have noted : (Task.update (Script.noted url body n)).run s deadline j =
      (some (), Script.noted url body n j) := Task.run_update ..
  rcases Task.run_wait_cases (script.takes n) s deadline (Script.noted url body n j) with
    waited | ⟨stop, waited⟩
  · have ran : (script.send url body n).run s deadline j = (some (script.outcome n), _) :=
      (Task.run_bind_some noted).trans (Task.run_bind_some waited)
    exact ⟨_, _, Caller.run_timed ran, by simp [Script.noted], .inr ⟨rfl, by simp [Script.noted]⟩⟩
  · have ran : (script.send url body n).run s deadline j = (none, _) :=
      (Task.run_bind_some noted).trans (Task.run_bind_none waited)
    refine ⟨none, { Script.noted url body n j with elapsed := stop }, ?_, rfl, .inl rfl⟩
    exact (Task.run_bind_some (Task.run_journal ..)).trans (Task.run_bind_none ran)

namespace Caller

variable {c : Caller} {hook : Hook} {url : Url} {s : Setting} {deadline : Option Nat}
  {j next : Journal σ} {send : Nat → Task σ Outcome} {left failed : Nat}

theorem callFrom_cut (ran : (c.timed hook (send failed)).run s deadline j = (none, next)) :
    (c.callFrom hook url send left failed).run s deadline j = (none, next) := by
  rw [callFrom.eq_def, Task.run_bind_none ran]

/-- Only the delay of a retry can be cut off. -/
theorem callFrom_retries_or_cut {timedOut : Bool} {text : String}
    (ran : (c.timed hook (send failed)).run s deadline j =
      (some (.error (.transport timedOut text)), next)) :
    (c.callFrom hook url send (left + 1) failed).run s deadline j =
        (c.callFrom hook url send left (failed + 1)).run s deadline
          (c.retrying hook url failed text next) ∨
      ∃ last, (c.callFrom hook url send (left + 1) failed).run s deadline j = (none, last) ∧
        last.memory = next.memory := by
  rw [callFrom.eq_def, Task.run_bind_some ran]
  simp only
  rw [Task.run_bind_some (run_count ..), Task.run_bind_some (Task.run_note ..)]
  rcases Task.run_wait_cases (c.retry.delay (failed + 1)).nanos s deadline
    ((c.counting (Metrics.countCall hook .transportError) next).note
      (.retrying hook url.write (failed + 1)
        (min (c.retry.delay (failed + 1)).millis (UInt64.size - 1)) text)) with
    waited | ⟨stop, waited⟩
  · exact .inl (Task.run_bind_some waited)
  · exact .inr ⟨_, Task.run_bind_none waited, by simp [Journal.note]⟩

end Caller

variable (script : Script) (c : Caller) (hook : Hook) (url : Url) (body : String) (s : Setting)
  (deadline : Option Nat)

/-- An attempt is either the last one, cut off or not, or leads to the next one after its delay. -/
theorem callFrom_step (left failed : Nat) (j : Journal (List Attempt)) :
    let call := c.callFrom hook url (script.send url body)
    let memory := j.memory ++ [⟨failed, url, body, j.elapsed⟩]
    ((call left failed).run s deadline j).2.memory = memory ∨
      ∃ fewer next, left = fewer + 1 ∧
        (call left failed).run s deadline j = (call fewer (failed + 1)).run s deadline next ∧
        next.memory = memory ∧
        next.elapsed =
          j.elapsed + script.takes failed + (c.retry.delay (failed + 1)).nanos := by
  intro call memory
  obtain ⟨result, next, ran, made, rfl | ⟨rfl, clock⟩⟩ :=
    run_attempt_until script c hook url body s deadline failed j
  · left
    simp only [call, Caller.callFrom_cut ran, made, memory]
  by_cases lost : Lost (script.outcome failed)
  · obtain ⟨timedOut, text, fails⟩ := lost
    rw [fails] at ran
    cases left with
    | zero =>
      left
      simp only [call, Caller.callFrom_gives_up ran, Caller.counting_memory, made, memory]
    | succ fewer =>
      rcases Caller.callFrom_retries_or_cut ran with again | ⟨last, cut, same⟩
      · exact .inr ⟨fewer, _, rfl, again, by simpa using made, by simp [clock]⟩
      · left
        simp only [call, cut, same, made, memory]
  · obtain ⟨decision, settles⟩ := settled_of_not_lost lost
    left
    simp only [call, Caller.callFrom_settles ran settles, Caller.counting_memory, made, memory]

/-- A call that has failed so often makes one more attempt and at most those that are left, at the
moments of the script, up to a deadline if there is one. -/
theorem exists_attempts (start left failed : Nat) (j : Journal (List Attempt))
    (clock : j.elapsed = script.begins c.retry start failed) :
    ∃ n ≤ left + 1,
      ((c.callFrom hook url (script.send url body) left failed).run s deadline j).2.memory =
        j.memory ++ (List.range' failed n).map (script.attempt c.retry start url body) := by
  induction left generalizing failed j with
  | zero =>
    rcases callFrom_step script c hook url body s deadline 0 failed j with
      last | ⟨fewer, next, more, _⟩
    · exact ⟨1, Nat.le_refl 1, by rw [last, clock]; rfl⟩
    · cases more
  | succ left ih =>
    rcases callFrom_step script c hook url body s deadline (left + 1) failed j with
      last | ⟨fewer, next, same, again, made, later⟩
    · exact ⟨1, Nat.le_add_left 1 _, by rw [last, clock]; rfl⟩
    · cases same
      obtain ⟨n, few, rest⟩ := ih (failed + 1) next (by rw [later, clock]; rfl)
      refine ⟨n + 1, Nat.succ_le_succ few, ?_⟩
      rw [again, rest, made, clock, List.append_assoc]
      rfl

/-- No deadline makes a call ask more often, or sooner. -/
theorem exists_spaced (d : Delegate) (j : Journal (List Attempt)) :
    ∃ made, ((d.consult script.send hook body).run s deadline j).2.memory = j.memory ++ made ∧
      Spaced script d.caller.retry made := by
  unfold consult
  cases d.targets.get hook with
  | none => exact ⟨[], (List.append_nil _).symm, spaced_nil script _⟩
  | some url =>
    obtain ⟨n, few, memory⟩ := exists_attempts script d.caller hook url body s deadline j.elapsed
      d.caller.retry.limit 0 j rfl
    rw [← List.range_eq_range'] at memory
    exact ⟨_, memory, spaced_attempts script _ j.elapsed url body few⟩

end Admission.Delegate
