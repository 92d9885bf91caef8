import Admission.Delegate.Basic
import Admission.Proofs.Task
/-!
What attempts and calls leave as it is, and when two of them agree. Apart from the counters of
remote calls and the log, only the time and the exchanges with the service change. A call depends
on its attempts only through what they come to and the time they take.
-/

namespace Admission.Delegate

variable {σ γ : Type} {view : Journal σ → γ}

/-- A way to make attempts, given how many of the call failed before. -/
abbrev Sending (σ : Type) := Delegate → Hook → Url → String → Nat → Task σ Outcome

/-- The way in which delegates make them. -/
def sendAttempt : Sending σ := fun d _ url body _ => d.sender.attempt url body

/-- The filter of a delegate that makes its attempts in the given way. -/
def filterWith (send : Sending σ) (d : Delegate) : Filter σ :=
  { name := filterName
    call := fun ctx change => do
      return .decided (← d.consult (send d change.hook) change.hook (body ctx change)) }

theorem filterWith_sendAttempt (d : Delegate) : (d.filterWith sendAttempt : Filter σ) = d.filter :=
  rfl

section Attempt

variable (timeless : ∀ j n, view { j with elapsed := n } = view j)

include timeless

theorem keeps_within (limit : Nat) (after : Option Nat) :
    (within limit after : Task σ Bool).Keeps view := by
  have pause (n : Nat) (b : Bool) : (do Task.wait n; return b : Task σ Bool).Keeps view :=
    .bind (Task.keeps_wait timeless n) fun _ => Task.keeps_pure b
  unfold within
  split
  · split
    · exact pause _ true
    · exact pause _ false
  · exact pause _ false

theorem keeps_readBody (left : Nat) (content : Content) :
    (readBody left content : Task σ String).Keeps view := by
  refine .bind (keeps_within timeless _ _) fun arrived => ?_
  split <;> exact Task.keeps_pure _

theorem keeps_receive (limits : Limits) (url : Url) (reply : Reply) :
    (receive limits url reply : Task σ Outcome).Keeps view := by
  refine .bind (keeps_within timeless _ _) fun arrived => ?_
  split
  · exact Task.keeps_pure _
  · split
    · exact Task.keeps_pure _
    · exact Task.keeps_pure _
    · split
      · exact .bind (keeps_readBody timeless _ _) fun _ => Task.keeps_pure _
      · exact Task.keeps_pure _

theorem keeps_attempt (silent : ∀ j exchanges, view { j with exchanges := exchanges } = view j)
    (c : Sender) (url : Url) (body : String) :
    (c.attempt url body : Task σ Outcome).Keeps view := by
  have asks (post : Post) : (exchange post : Task σ Reply).Keeps view := fun _ _ j => silent j _
  refine .bind Task.keeps_setting fun s => ?_
  cases c.token.token s.environment with
  | error name => exact Task.keeps_pure _
  | ok token =>
    dsimp only
    by_cases legal : (c.header.value token).toList.all legalInHeader = true
    · rw [if_neg (by simp [legal])]
      by_cases web : url.scheme ≠ Url.http ∧ url.scheme ≠ Url.https
      · rw [if_pos web]
        exact Task.keeps_pure _
      · rw [if_neg web]
        exact .bind (asks _) fun reply => keeps_receive timeless _ _ reply
    · rw [if_pos (by simp [legal])]
      exact Task.keeps_pure _

end Attempt

theorem Caller.keeps_count (c : Caller) (f : Metrics → Metrics)
    (same : ∀ j, view (j.count f) = view j) : (c.count f : Task σ Unit).Keeps view := by
  unfold Caller.count
  split
  · exact Task.keeps_update same
  · exact Task.keeps_pure ()

/-- A view that shows nothing of remote calls. -/
structure Aside (view : Journal σ → γ) : Prop where
  elapsed : ∀ j n, view { j with elapsed := n } = view j
  exchanges : ∀ j exchanges, view { j with exchanges := exchanges } = view j
  calls : ∀ j hook result, view (j.count (Metrics.countCall hook result)) = view j
  durations : ∀ j hook d, view (j.count (Metrics.observeCall hook d)) = view j
  retries : ∀ j hook url attempt delay error,
    view (j.note (.retrying hook url attempt delay error)) = view j
  skips : ∀ j hook, view (j.note (.notDelegated hook)) = view j

section Call

variable (aside : Aside view)

include aside

theorem Caller.keeps_finish (c : Caller) (hook : Hook) (r : Response) :
    (c.finish hook r : Task σ Decision).Keeps view := by
  have counts (result : CallResult) :
      (c.count (Metrics.countCall hook result) : Task σ Unit).Keeps view :=
    c.keeps_count _ fun j => aside.calls j hook result
  unfold Caller.finish
  split
  · exact .bind (counts _) fun _ => Task.keeps_pure _
  · split
    · exact .bind (counts _) fun _ => Task.keeps_pure _
    · exact .bind (counts _) fun _ => Task.keeps_pure _

theorem Caller.keeps_timed (c : Caller) (hook : Hook) {attempt : Task σ Outcome}
    (kept : attempt.Keeps view) : (c.timed hook attempt).Keeps view :=
  .bind Task.keeps_journal fun _ => .bind kept fun result => .bind Task.keeps_journal fun _ =>
    .bind (c.keeps_count _ fun j => aside.durations j hook _) fun _ => Task.keeps_pure result

theorem Caller.keeps_callFrom (c : Caller) (hook : Hook) (url : Url)
    {send : Nat → Task σ Outcome} (kept : ∀ failed, (send failed).Keeps view) (left failed : Nat) :
    (c.callFrom hook url send left failed).Keeps view := by
  have counts : (c.count (Metrics.countCall hook .transportError) : Task σ Unit).Keeps view :=
    c.keeps_count _ fun j => aside.calls j hook .transportError
  induction left generalizing failed with
  | zero =>
    rw [callFrom.eq_def]
    refine .bind (c.keeps_timed aside hook (kept failed)) fun o => ?_
    split
    · exact c.keeps_finish aside hook _
    · exact .bind counts fun _ => Task.keeps_pure _
    · exact .bind counts fun _ => Task.keeps_pure _
  | succ left ih =>
    rw [callFrom.eq_def]
    refine .bind (c.keeps_timed aside hook (kept failed)) fun o => ?_
    split
    · exact c.keeps_finish aside hook _
    · exact .bind counts fun _ => Task.keeps_pure _
    · exact .bind counts fun _ => .bind (Task.keeps_update fun j => aside.retries j ..) fun _ =>
        .bind (Task.keeps_wait aside.elapsed _) fun _ => ih (failed + 1)

/-- A filter that asks the service changes nothing else. -/
theorem keeps_filter (d : Delegate) (ctx : Context) (change : Change) :
    (d.filter.call ctx change : Task σ Admission.Ending).Keeps view := by
  refine .bind ?_ fun _ => Task.keeps_pure _
  unfold ask consult
  split
  · exact .bind (Task.keeps_update fun j => aside.skips j _) fun _ => Task.keeps_pure _
  · exact d.caller.keeps_callFrom aside _ _
      (fun _ => keeps_attempt aside.elapsed aside.exchanges _ _ _) _ _

end Call

/-! Two calls. -/

section Agreement

variable {σ' : Type} {S : Setting → Setting → Prop} {R : Journal σ → Journal σ' → Prop}
variable (mirrors : Task.Mirrors R)

include mirrors

theorem agrees_within (limit : Nat) (after : Option Nat) :
    Task.Agrees S R Eq (within limit after) (within limit after) := by
  have pause (n : Nat) (b : Bool) : Task.Agrees S R Eq (do Task.wait n; return b : Task σ Bool)
      (do Task.wait n; return b : Task σ' Bool) :=
    (mirrors.wait n).bind fun _ _ _ => Task.agrees_pure rfl
  unfold within
  split
  · split
    · exact pause _ true
    · exact pause _ false
  · exact pause _ false

theorem agrees_readBody (left : Nat) (content : Content) :
    Task.Agrees S R Eq (readBody left content) (readBody left content) := by
  refine (agrees_within mirrors _ _).bind fun arrived _ same => ?_
  subst same
  split <;> exact Task.agrees_pure rfl

theorem agrees_receive (limits : Limits) (url : Url) (reply : Reply) :
    Task.Agrees S R Eq (receive limits url reply) (receive limits url reply) := by
  refine (agrees_within mirrors _ _).bind fun arrived _ same => ?_
  subst same
  split
  · exact Task.agrees_pure rfl
  · split
    · exact Task.agrees_pure rfl
    · exact Task.agrees_pure rfl
    · split
      · refine (agrees_readBody mirrors _ _).bind fun body _ same => ?_
        exact same ▸ Task.agrees_pure rfl
      · exact Task.agrees_pure rfl

namespace Caller

theorem agrees_count (c : Caller) (f : Metrics → Metrics) :
    Task.Agrees S R Eq (c.count f) (c.count f) := by
  unfold Caller.count
  split
  · exact mirrors.count f
  · exact Task.agrees_pure rfl

theorem agrees_finish (c : Caller) (hook : Hook) (r : Response) :
    Task.Agrees S R Eq (c.finish hook r) (c.finish hook r) := by
  have counts (result : CallResult) :
      Task.Agrees S R Eq (c.count (Metrics.countCall hook result))
        (c.count (Metrics.countCall hook result)) := agrees_count mirrors c _
  unfold Caller.finish
  split
  · exact (counts _).bind fun _ _ _ => Task.agrees_pure rfl
  · split
    · exact (counts _).bind fun _ _ _ => Task.agrees_pure rfl
    · exact (counts _).bind fun _ _ _ => Task.agrees_pure rfl

theorem agrees_timed (c : Caller) (hook : Hook) {attempt : Task σ Outcome}
    {attempt' : Task σ' Outcome} (same : Task.Agrees S R Eq attempt attempt') :
    Task.Agrees S R Eq (c.timed hook attempt) (c.timed hook attempt') := by
  refine Task.agrees_journal.bind fun start start' started => ?_
  refine same.bind fun o _ equal => ?_
  subst equal
  refine Task.agrees_journal.bind fun stop stop' stopped => ?_
  rw [mirrors.clock started, mirrors.clock stopped]
  exact (agrees_count mirrors c _).bind fun _ _ _ => Task.agrees_pure rfl

theorem agrees_callFrom (c : Caller) (hook : Hook) (url : Url) {send : Nat → Task σ Outcome}
    {send' : Nat → Task σ' Outcome} (same : ∀ n, Task.Agrees S R Eq (send n) (send' n))
    (left failed : Nat) :
    Task.Agrees S R Eq (c.callFrom hook url send left failed)
      (c.callFrom hook url send' left failed) := by
  have counts := agrees_count (S := S) mirrors c (Metrics.countCall hook .transportError)
  induction left generalizing failed with
  | zero =>
    rw [callFrom.eq_def, callFrom.eq_def]
    refine (agrees_timed mirrors c hook (same failed)).bind fun o _ equal => ?_
    subst equal
    split
    · exact agrees_finish mirrors c hook _
    · exact counts.bind fun _ _ _ => Task.agrees_pure rfl
    · exact counts.bind fun _ _ _ => Task.agrees_pure rfl
  | succ left ih =>
    rw [callFrom.eq_def, callFrom.eq_def]
    refine (agrees_timed mirrors c hook (same failed)).bind fun o _ equal => ?_
    subst equal
    split
    · exact agrees_finish mirrors c hook _
    · exact counts.bind fun _ _ _ => Task.agrees_pure rfl
    · refine counts.bind fun _ _ _ => (mirrors.note _).bind fun _ _ _ => ?_
      exact (mirrors.wait _).bind fun _ _ _ => ih (failed + 1)

end Caller

theorem agrees_consult (d d' : Delegate) (targets : d.targets = d'.targets)
    (caller : d.caller = d'.caller) {send : Url → String → Nat → Task σ Outcome}
    {send' : Url → String → Nat → Task σ' Outcome}
    (same : ∀ url body n, Task.Agrees S R Eq (send url body n) (send' url body n)) (hook : Hook)
    (body : String) :
    Task.Agrees S R Eq (d.consult send hook body) (d'.consult send' hook body) := by
  unfold consult
  rw [targets, caller]
  split
  · exact (mirrors.note _).bind fun _ _ _ => Task.agrees_pure rfl
  · exact Caller.agrees_callFrom mirrors _ _ _ (same _ _) _ _

/-- Attempts agree where both runs see the same requests and replies. -/
theorem agrees_sendAttempt (seen : ∀ {j j'}, R j j' → j.exchanges = j'.exchanges)
    (adds : ∀ {j j'}, R j j' → ∀ x, R { j with exchanges := j.exchanges ++ [x] }
      { j' with exchanges := j'.exchanges ++ [x] })
    (d : Delegate) (hook : Hook) (url : Url) (body : String) (n : Nat) :
    Task.Agrees Eq R Eq (sendAttempt d hook url body n) (sendAttempt d hook url body n) := by
  have asks (post : Post) : Task.Agrees Eq R Eq (exchange post) (exchange post) := by
    rintro s _ deadline j j' rfl journals
    have more := adds journals ⟨post, s.service j'.exchanges post⟩
    rw [seen journals] at more
    simp only [exchange, Task.run, seen journals]
    exact ⟨.some rfl, more⟩
  refine Task.agrees_setting.bind fun s _ same => ?_
  subst same
  cases d.sender.token.token s.environment with
  | error name => exact Task.agrees_pure rfl
  | ok token =>
    dsimp only
    split
    · exact Task.agrees_pure rfl
    · split
      · exact Task.agrees_pure rfl
      · refine (asks _).bind fun reply _ same => ?_
        exact same ▸ agrees_receive mirrors _ _ _

theorem agrees_call (d d' : Delegate) (targets : d.targets = d'.targets)
    (caller : d.caller = d'.caller) {send : Sending σ} {send' : Sending σ'}
    (same : ∀ hook url body n,
      Task.Agrees S R Eq (send d hook url body n) (send' d' hook url body n))
    (ctx : Context) (change : Change) :
    Task.Agrees S R Eq ((d.filterWith send).call ctx change)
      ((d'.filterWith send').call ctx change) := by
  have asked := agrees_consult mirrors d d' targets caller (same change.hook) change.hook
    (body ctx change)
  exact asked.bind fun decision _ equal => equal ▸ Task.agrees_pure rfl

end Agreement

end Admission.Delegate
