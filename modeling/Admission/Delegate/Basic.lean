import Admission.Delegate.Call
import Admission.Delegate.Target
import Admission.Filter.Basic
/-!
The filter that leaves its decisions to a remote policy service. Each hook posts the context and
the snapshots it has, as JSON. The filter never turns a failure into allow or deny.
-/

namespace Admission

structure Delegate where
  targets : Delegate.Targets
  sender : Delegate.Sender
  caller : Delegate.Caller

namespace Delegate

def bodyJson (ctx : Context) : Change → Json
  | .create lease => .object [("context", ctx.toJson), ("lease", lease.toJson)]
  | .update current lease =>
      .object [("context", ctx.toJson), ("current_lease", current.toJson), ("lease", lease.toJson)]
  | .onEnd current => .object [("context", ctx.toJson), ("current_lease", current.toJson)]

def body (ctx : Context) (change : Change) : String := (bodyJson ctx change).write

/-- A token that is given comes before a variable that is named. -/
def tokenSource (c : ServiceSection) : Except Error TokenSource :=
  match c.token, c.tokenEnv with
  | some token, _ => .ok (.fixed token)
  | none, some name => .ok (.variable name)
  | none, none => .error (.configuration "filters.external_service requires token or token_env")

def nanosPerMilli : Nat := 1000000

def ofSection (c : ServiceSection) (counted : Bool) : Except Error Delegate := do
  let token ← tokenSource c
  let targets ← Targets.resolve c
  .ok { targets := targets
        sender :=
          { limits := ⟨c.timeout * nanosPerMilli, c.connectTimeout * nanosPerMilli⟩
            header := c.authHeader
            token := token }
        caller :=
          { counted := counted
            retry := ⟨c.maxRetries, .ofMillis c.backoffInitial, .ofMillis c.backoffMax⟩ } }

def withToken (token : TokenSource) (d : Delegate) : Delegate :=
  { d with sender := { d.sender with token := token } }

variable {σ : Type}

/-- A hook without a target is allowed. `send` makes an attempt, given how many failed before. -/
def consult (d : Delegate) (send : Url → String → Nat → Task σ Outcome) (hook : Hook)
    (body : String) : Task σ Decision :=
  match d.targets.get hook with
  | none => do
      Task.note (.notDelegated hook)
      return .allow
  | some url => d.caller.call hook url (send url body)

def ask (d : Delegate) (ctx : Context) (change : Change) : Task σ Decision :=
  d.consult (fun url body _ => d.sender.attempt url body) change.hook (body ctx change)

def filter (d : Delegate) : Filter σ :=
  { name := filterName
    call := fun ctx change => do return .decided (← d.ask ctx change) }

end Delegate

end Admission
