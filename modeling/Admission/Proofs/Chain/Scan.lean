import Mathlib.Data.ENat.Basic
import Mathlib.Algebra.BigOperators.Group.List.Basic
import Admission.Chain.Basic
import Admission.Proofs.Task
/-!
The scan of a chain over filters of any behaviour in time. A probe is a filter that notes each
call it is given and then takes its course: it ends after some time, or never. The main statement
says for every list of probes which of them are called, with what, and which one decides, or that
none is called because the budget ends after the clock does.
-/

namespace Admission

open Time (Delay)

/-! The end of the clock. -/

namespace Time.Uptime

variable (u : Uptime) {d : Delay}

theorem reaches_of_lt (short : d.seconds < 2 ^ 62) : u.Reaches d := by
  have early := u.early
  unfold Delay.seconds at short
  unfold Reaches lastMoment UInt64.size at *
  omega

theorem not_reaches_of_le (long : 2 ^ 63 ≤ d.seconds) : ¬ u.Reaches d := by
  unfold Delay.seconds at long
  unfold Reaches lastMoment UInt64.size
  omega

end Time.Uptime

/-! Probes. -/

structure Call where
  filter : String
  context : Context
  change : Change

inductive Course where
  | ends (after : Nat) (ending : Ending)
  | never

namespace Course

/-- The time until the end; a call that never ends takes longer than any budget. -/
def delay : Course → ℕ∞
  | .ends after _ => after
  | .never => ⊤

end Course

structure Probe where
  name : String
  course : Context → Change → Course

namespace Probe

def asked (ctx : Context) (change : Change) (p : Probe) : Call := ⟨p.name, ctx, change⟩

def noted (ctx : Context) (change : Change) (p : Probe) (j : Journal (List Call)) :
    Journal (List Call) :=
  { j with memory := j.memory ++ [p.asked ctx change] }

def filter (p : Probe) : Filter (List Call) :=
  { name := p.name
    call := fun ctx change => do
      Task.update (p.noted ctx change)
      match p.course ctx change with
      | .ends after ending =>
          Task.wait after
          return ending
      | .never => Task.never }

/-- The time from the start of a scan until the calls of all these have ended. -/
def spent (ctx : Context) (change : Change) (ps : List Probe) : ℕ∞ :=
  (ps.map fun p => (p.course ctx change).delay).sum

theorem spent_snoc (ctx : Context) (change : Change) (before : List Probe) (p : Probe) :
    spent ctx change (before ++ [p]) = spent ctx change before + (p.course ctx change).delay := by
  simp [spent]

variable {ctx : Context} {change : Change} {p : Probe}

theorem run_in_time (s : Setting) (deadline : Nat) (j : Journal (List Call)) {after : Nat}
    {ending : Ending} (course : p.course ctx change = .ends after ending)
    (inTime : j.elapsed + after ≤ deadline) :
    (p.filter.call ctx change).run s (some deadline) j =
      (some ending, { p.noted ctx change j with elapsed := j.elapsed + after }) := by
  simp only [filter, course]
  rw [Task.run_bind_some (Task.run_update ..),
    Task.run_bind_some (Task.run_wait_in_time _ _ _ (p.noted ctx change j) inTime)]
  rfl

/-- A probe that is cut off has noted the call all the same. -/
theorem run_late (s : Setting) (deadline : Nat) (j : Journal (List Call)) {after : Nat}
    {ending : Ending} (course : p.course ctx change = .ends after ending)
    (late : deadline < j.elapsed + after) :
    (p.filter.call ctx change).run s (some deadline) j =
      (none, { p.noted ctx change j with elapsed := max j.elapsed deadline }) := by
  have cut := (Task.run_wait_late after s deadline (p.noted ctx change j) late).trans
    (Task.run_never ..)
  simp only [filter, course]
  rw [Task.run_bind_some (Task.run_update ..), Task.run_bind_none cut]
  rfl

theorem run_never (s : Setting) (deadline : Nat) (j : Journal (List Call))
    (course : p.course ctx change = .never) :
    (p.filter.call ctx change).run s (some deadline) j =
      (none, { p.noted ctx change j with elapsed := max j.elapsed deadline }) := by
  simp only [filter, course]
  rw [Task.run_bind_some (Task.run_update ..)]
  rfl

end Probe

namespace Chain

open Probe (spent)

/-- What `p` answers when it is called after `before`, within one budget for all of them. -/
inductive Answers (timeout : Delay) (ctx : Context) (change : Change) (before : List Probe)
    (p : Probe) : Decision → Prop where
  | decided {after : Nat} {d : Decision}
      (course : p.course ctx change = .ends after (.decided d))
      (inTime : spent ctx change (before ++ [p]) ≤ timeout.nanos) :
      Answers timeout ctx change before p d
  | crashed {after : Nat} {message : Option String}
      (course : p.course ctx change = .ends after (.crashed message))
      (inTime : spent ctx change (before ++ [p]) ≤ timeout.nanos) :
      Answers timeout ctx change before p
        (.error p.name ("filter panicked: " ++ message.getD "unknown panic payload"))
  | overdue (late : (timeout.nanos : ℕ∞) < spent ctx change (before ++ [p])) :
      Answers timeout ctx change before p (.error p.name (change.hook.label ++ " exceeded the " ++
        toString timeout.millis ++ "ms enforcement budget"))

/-- Every one of these allows when it is called after those before it. -/
inductive AllAllow (timeout : Delay) (ctx : Context) (change : Change) : List Probe → Prop where
  | nil : AllAllow timeout ctx change []
  | snoc {before : List Probe} {p : Probe} (front : AllAllow timeout ctx change before)
      (last : Answers timeout ctx change before p .allow) :
      AllAllow timeout ctx change (before ++ [p])

/-- A scan of `ps` that calls the given ones and no others and comes to a decision: all of them
when all allow, and otherwise up to the first that does not. -/
inductive Scanned (timeout : Delay) (ctx : Context) (change : Change) (ps : List Probe) :
    List Probe → Decision → Prop where
  | allowed (all : AllAllow timeout ctx change ps) : Scanned timeout ctx change ps ps .allow
  | stopped {before after : List Probe} {p : Probe} {d : Decision}
      (split : ps = before ++ p :: after) (front : AllAllow timeout ctx change before)
      (answer : Answers timeout ctx change before p d) (stop : d ≠ .allow) :
      Scanned timeout ctx change ps (before ++ [p]) d

/-- Context and snapshots keep their own rules. -/
def Sound (ctx : Context) (change : Change) : Prop :=
  ctx.validate = .ok () ∧ ∀ l ∈ change.snapshots, l.validate = .ok ()

theorem change_validate_ok_iff (change : Change) :
    change.validate = .ok () ↔ ∀ l ∈ change.snapshots, l.validate = .ok () := by
  have kept (l : Lease) : l.validate = .ok () ↔ l.violation? = none := by
    unfold Lease.validate
    cases l.violation? <;> simp
  simp only [kept, ← List.findSome?_eq_none_iff]
  unfold Change.validate Change.firstViolation?
  cases change.snapshots.findSome? Lease.violation? <;> simp

theorem validate_ok_iff (ctx : Context) (change : Change) :
    validate ctx change = .ok () ↔ Sound ctx change := by
  rw [Sound, ← change_validate_ok_iff]
  unfold validate
  cases ctx.validate with
  | ok u => exact ⟨fun valid => ⟨rfl, valid⟩, fun sound => sound.2⟩
  | error e => exact ⟨fun valid => (nomatch valid), fun sound => (nomatch sound.1)⟩

variable {timeout : Delay} {ctx : Context} {change : Change}

theorem deadline_reached_iff {before : List Probe} {p : Probe} {started elapsed after : Nat}
    {ending : Ending} (course : p.course ctx change = .ends after ending)
    (clock : (elapsed : ℕ∞) = started + spent ctx change before) :
    elapsed + after ≤ started + timeout.nanos ↔
      spent ctx change (before ++ [p]) ≤ timeout.nanos := by
  have total : ((elapsed + after : Nat) : ℕ∞) = started + spent ctx change (before ++ [p]) := by
    rw [Probe.spent_snoc, course, Course.delay, ← add_assoc, ← clock]
    rfl
  rw [← ENat.add_le_add_iff_left (ENat.natCast_ne_top started), ← total]
  norm_cast

/-- One call: the probe notes it and answers, and an answer in time leaves the clock at the time
that all calls up to this one have taken. -/
theorem call_answers (c : Chain (List Call)) (s : Setting) (p : Probe) (before : List Probe)
    (started : Nat) (j : Journal (List Call))
    (clock : (j.elapsed : ℕ∞) = started + spent ctx change before) :
    ∃ ending next,
      (p.filter.call ctx change).run s (some (started + c.hookTimeout.nanos)) j = (ending, next) ∧
      Answers c.hookTimeout ctx change before p (c.decisionOf p.name change.hook ending) ∧
      next.memory = j.memory ++ [p.asked ctx change] ∧
      (c.decisionOf p.name change.hook ending = .allow →
        (next.elapsed : ℕ∞) = started + spent ctx change (before ++ [p])) := by
  cases course : p.course ctx change with
  | never =>
    refine ⟨none, _, Probe.run_never s _ j course, .overdue ?_, rfl, fun allow => nomatch allow⟩
    rw [Probe.spent_snoc, course, Course.delay, add_top]
    exact ENat.natCast_lt_top _
  | ends after ending =>
    by_cases inTime : j.elapsed + after ≤ started + c.hookTimeout.nanos
    · have kept := (deadline_reached_iff course clock).mp inTime
      refine ⟨some ending, _, Probe.run_in_time s _ j course inTime, ?_, rfl, fun _ => ?_⟩
      · cases ending with
        | decided d => exact .decided course kept
        | crashed message => exact .crashed course kept
      · rw [Probe.spent_snoc, course, Course.delay, ← add_assoc, ← clock]
        rfl
    · have late : ¬ spent ctx change (before ++ [p]) ≤ c.hookTimeout.nanos :=
        fun kept => inTime ((deadline_reached_iff course clock).mpr kept)
      exact ⟨none, _, Probe.run_late s _ j course (not_le.mp inTime), .overdue (not_le.mp late),
        rfl, fun allow => nomatch allow⟩

-- What is written down about a decision is neither a call nor time.
@[simp]
theorem record_memory {σ : Type} (hook : Hook) (name : String) (d : Decision) (j : Journal σ) :
    (record hook name ctx d j).memory = j.memory := rfl

@[simp]
theorem record_elapsed {σ : Type} (hook : Hook) (name : String) (d : Decision) (j : Journal σ) :
    (record hook name ctx d j).elapsed = j.elapsed := rfl

variable (ctx change) in
/-- The scan of the filters that are left, from where those before them have allowed. -/
theorem scan_rest (c : Chain (List Call)) (s : Setting) (started : Nat) (before rest : List Probe)
    (j : Journal (List Call)) (allow : AllAllow c.hookTimeout ctx change before)
    (clock : (j.elapsed : ℕ∞) = started + spent ctx change before) :
    ∃ d next called,
      c.scan s (started + c.hookTimeout.nanos) ctx change (rest.map Probe.filter) j = (d, next) ∧
      Scanned c.hookTimeout ctx change (before ++ rest) (before ++ called) d ∧
      next.memory = j.memory ++ called.map (Probe.asked ctx change) := by
  induction rest generalizing before j with
  | nil => exact ⟨.allow, j, [], rfl, .allowed (by simpa using allow), by simp⟩
  | cons p rest ih =>
    obtain ⟨ending, after, ran, answer, noted, later⟩ := call_answers c s p before started j clock
    have name : p.filter.name = p.name := rfl
    simp only [List.map_cons, scan, ran, name]
    by_cases goesOn : c.decisionOf p.name change.hook ending = .allow
    · have front := AllAllow.snoc allow (goesOn ▸ answer)
      obtain ⟨d, next, called, scanned, result, memory⟩ :=
        ih (before ++ [p]) (record change.hook p.name ctx .allow after) front (later goesOn)
      rw [goesOn, if_pos (Decision.isAllow_iff.mpr rfl)]
      refine ⟨d, next, p :: called, scanned, by simpa using result, ?_⟩
      rw [memory, record_memory, noted]
      simp
    · rw [if_neg (Decision.isAllow_iff.not.mpr goesOn)]
      exact ⟨_, _, [p], rfl, .stopped rfl allow answer goesOn, noted⟩

/-! The four ways an evaluation can go. -/

section Evaluate

variable {σ : Type} (c : Chain σ) (s : Setting) (j : Journal σ)

theorem evaluate_malformed {e : Error} (broken : validate ctx change = .error e) :
    c.evaluate s ctx change j = (.decided (.error chainName e.message),
      record change.hook chainName ctx (.error chainName e.message) j) := by
  simp only [evaluate, broken]

variable (sound : Sound ctx change)

include sound

theorem evaluate_exempt (listed : ctx.projectId ∈ c.exemptProjects) :
    c.evaluate s ctx change j = (.decided .allow,
      (j.note (.projectExempt change.hook ctx.projectId)).count
        (Metrics.countExempt change.hook)) := by
  have excused : c.isExempt ctx = true := List.contains_iff_mem.mpr listed
  simp only [evaluate, (validate_ok_iff ctx change).mpr sound, excused, if_true]

variable (unlisted : ctx.projectId ∉ c.exemptProjects)

include unlisted

theorem evaluate_asks (reached : s.uptime.Reaches c.hookTimeout) :
    let r := c.scan s (j.elapsed + c.hookTimeout.nanos) ctx change c.filters j
    c.evaluate s ctx change j = (.decided r.1, r.2) := by
  have asked : c.isExempt ctx = false := by simpa [isExempt] using unlisted
  simp only [evaluate, (validate_ok_iff ctx change).mpr sound, asked, reached, if_true,
    Bool.false_eq_true, if_false]

theorem evaluate_beyond (beyond : ¬ s.uptime.Reaches c.hookTimeout) :
    c.evaluate s ctx change j = (.crashed (some beyondClock), j) := by
  have asked : c.isExempt ctx = false := by simpa [isExempt] using unlisted
  simp only [evaluate, (validate_ok_iff ctx change).mpr sound, asked, beyond, Bool.false_eq_true,
    if_false]

end Evaluate

/-- A malformed request is an error in the chain's own name, and only then is an exempt project
allowed, both without a call. Otherwise the filters are called in order on the context and the
change as they are, under one budget, up to the first that does not allow. A budget that ends after
the last moment of the clock, as none below half the clock's range does, crashes the chain before it
calls anyone or writes anything down. -/
theorem evaluate_fails_closed (ps : List Probe) (exempt : List String) (timeout : Delay)
    (s : Setting) (ctx : Context) (change : Change) (j : Journal (List Call)) :
    let c : Chain (List Call) := ⟨ps.map Probe.filter, exempt, timeout⟩
    let r := c.evaluate s ctx change j
    (¬ Sound ctx change →
      (∃ e, validate ctx change = .error e ∧ r.1 = .decided (.error "enforcement" e.message)) ∧
      r.2.memory = j.memory) ∧
    (Sound ctx change → ctx.projectId ∈ exempt →
      r.1 = .decided .allow ∧ r.2.memory = j.memory) ∧
    (Sound ctx change → ctx.projectId ∉ exempt → s.uptime.Reaches timeout →
      ∃ called d, Scanned timeout ctx change ps called d ∧ r.1 = .decided d ∧
        r.2.memory = j.memory ++ called.map (Probe.asked ctx change)) ∧
    (Sound ctx change → ctx.projectId ∉ exempt → ¬ s.uptime.Reaches timeout →
      r = (.crashed (some "overflow when adding duration to instant"), j)) ∧
    (timeout.seconds < 2 ^ 62 → s.uptime.Reaches timeout) ∧
    (2 ^ 63 ≤ timeout.seconds → ¬ s.uptime.Reaches timeout) := by
  intro c r
  refine ⟨?malformed, ?exempt, ?scanned, c.evaluate_beyond s j, s.uptime.reaches_of_lt,
    s.uptime.not_reaches_of_le⟩
  case malformed =>
    intro broken
    cases checked : validate ctx change with
    | ok u => exact absurd ((validate_ok_iff ctx change).mp checked) broken
    | error e =>
      have made := c.evaluate_malformed s j checked
      exact ⟨⟨e, rfl, congrArg Prod.fst made⟩, congrArg (·.2.memory) made⟩
  case exempt =>
    intro sound listed
    have allowed := c.evaluate_exempt s j sound listed
    exact ⟨congrArg Prod.fst allowed, congrArg (·.2.memory) allowed⟩
  case scanned =>
    intro sound unlisted reached
    obtain ⟨d, next, called, scanned, result, memory⟩ :=
      scan_rest ctx change c s j.elapsed [] ps j .nil (by simp [spent])
    have same : r = (.decided d, next) :=
      (c.evaluate_asks s j sound unlisted reached).trans
        (congrArg (fun r => (Ending.decided r.1, r.2)) scanned)
    rw [same]
    exact ⟨called, d, by simpa using result, rfl, memory⟩

-- The filter would deny at once, within any budget, but the longest one crashes the chain.
theorem evaluate_fails_closed_longest :
    let p : Probe := ⟨"Quota", fun _ _ => .ends 0 (.decided (.deny "Quota" "no room"))⟩
    let c : Chain (List Call) := ⟨[p.filter], [], .longest⟩
    let s : Setting := ⟨⟨21915, 0, 0⟩, [], Service.absent, .zero⟩
    let ctx : Context := ⟨"u1", "p1", "http://keystone.local/v3", "RegionOne"⟩
    let change : Change := .create { startDate := ⟨21915, 10, 0⟩, endDate := ⟨21915, 30, 0⟩ }
    let j : Journal (List Call) := { memory := [] }
    Sound ctx change ∧ ctx.projectId ∉ c.exemptProjects ∧
      Scanned .longest ctx change [p] [p] (.deny "Quota" "no room") ∧
      c.evaluate s ctx change j =
        (.crashed (some "overflow when adding duration to instant"), j) := by
  intro p c s ctx change j
  have sound : Sound ctx change := ⟨by decide, by decide⟩
  have inTime : spent ctx change ([] ++ [p]) ≤ Delay.longest.nanos := by
    simp [spent, p, Course.delay]
  refine ⟨sound, List.not_mem_nil, ?_, ?_⟩
  · exact .stopped (show [p] = [] ++ p :: [] from rfl) .nil (.decided rfl inTime) nofun
  · exact c.evaluate_beyond s j sound List.not_mem_nil (by decide)

end Chain

end Admission
