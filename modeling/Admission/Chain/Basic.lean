import Admission.Filter.Basic
/-!
The enforcement chain: filters in order, of which the first that does not allow decides. A
request that is malformed is an error and an exempt project is allowed, and no filter is asked.
All filters of one hook share a budget of time; the one that is cut off by it decides with an
error. A budget that ends after the last moment of the clock crashes the chain before it asks
anyone.
-/

namespace Admission

structure Chain (σ : Type) where
  filters : List (Filter σ)
  exemptProjects : List String := []
  -- the budget of one hook
  hookTimeout : Time.Delay := Time.Delay.ofMillis 30000

namespace Chain

variable {σ : Type}

/-- Decides in the name of the chain itself. -/
def chainName : String := "enforcement"

def filterNames (c : Chain σ) : List String := c.filters.map (·.name)

def withExemptProjects (c : Chain σ) (projects : List String) : Chain σ :=
  { c with exemptProjects := c.exemptProjects ++ projects }

def withHookTimeout (c : Chain σ) (timeout : Time.Delay) : Chain σ :=
  { c with hookTimeout := timeout }

def isExempt (c : Chain σ) (ctx : Context) : Bool := c.exemptProjects.contains ctx.projectId

/-- The context is checked before the snapshots. -/
def validate (ctx : Context) (change : Change) : Except Error Unit := do
  ctx.validate
  change.validate

def crashReason (message : Option String) : String :=
  "filter panicked: " ++ message.getD "unknown panic payload"

def overdueReason (hook : Hook) (timeout : Time.Delay) : String :=
  hook.label ++ " exceeded the " ++ toString timeout.millis ++ "ms enforcement budget"

/-- What a filter's call comes to; one that was cut off has no ending. -/
def decisionOf (c : Chain σ) (name : String) (hook : Hook) : Option Ending → Decision
  | some (.decided d) => d
  | some (.crashed message) => .error name (crashReason message)
  | none => .error name (overdueReason hook c.hookTimeout)

def decisionEvent (hook : Hook) (name project : String) : Decision → Event
  | .allow => .allowed hook name project
  | .deny _ reason => .denied hook name project reason
  | .error _ reason => .unavailable hook name project reason

/-- Counts and logs a decision made by `name`. -/
def record (hook : Hook) (name : String) (ctx : Context) (d : Decision) (j : Journal σ) :
    Journal σ :=
  (j.count (Metrics.countDecision hook name d)).note (decisionEvent hook name ctx.projectId d)

def scan (c : Chain σ) (s : Setting) (deadline : Nat) (ctx : Context) (change : Change) :
    List (Filter σ) → Journal σ → Decision × Journal σ
  | [], j => (.allow, j)
  | f :: rest, j =>
      let (ending, j) := (f.call ctx change).run s (some deadline) j
      let d := c.decisionOf f.name change.hook ending
      let j := record change.hook f.name ctx d j
      if d.isAllow then scan c s deadline ctx change rest j else (d, j)

/-- The crash of a chain whose budget ends where the clock has no moment. -/
def beyondClock : String := "overflow when adding duration to instant"

def evaluate (c : Chain σ) (s : Setting) (ctx : Context) (change : Change) (j : Journal σ) :
    Ending × Journal σ :=
  match validate ctx change with
  | .error e =>
      let d := Decision.error chainName e.message
      (.decided d, record change.hook chainName ctx d j)
  | .ok () =>
      if c.isExempt ctx then
        (.decided .allow, (j.note (.projectExempt change.hook ctx.projectId)).count
          (Metrics.countExempt change.hook))
      else if s.uptime.Reaches c.hookTimeout then
        let (d, j) := c.scan s (j.elapsed + c.hookTimeout.nanos) ctx change c.filters j
        (.decided d, j)
      else (.crashed (some beyondClock), j)

/-- For callers that only go on when allowed; a crash is theirs too. -/
def check (c : Chain σ) (s : Setting) (ctx : Context) (change : Change) (j : Journal σ) :
    Option (Except Error Unit) × Journal σ :=
  let (ending, j) := c.evaluate s ctx change j
  (ending.decision?.map Decision.toResult, j)

end Chain

end Admission
