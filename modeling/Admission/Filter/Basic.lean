import Admission.Context
import Admission.Task
/-!
A filter is a policy that is consulted at the hooks of a lease's life. It answers with a
decision, or it crashes, with a message or without one.
-/

namespace Admission

/-- How a call comes to its end. -/
inductive Ending where
  | decided (d : Decision)
  | crashed (message : Option String)
  deriving DecidableEq

namespace Ending

def decision? : Ending → Option Decision
  | .decided d => some d
  | .crashed _ => none

end Ending

structure Filter (σ : Type) where
  name : String
  call : Context → Change → Task σ Ending

namespace Filter

variable {σ : Type}

/-- Ending a lease is allowed unless a filter has something to say about it. -/
def ofChecks (name : String) (create : Context → Lease → Task σ Ending)
    (update : Context → Lease → Lease → Task σ Ending) : Filter σ :=
  { name := name
    call := fun ctx change =>
      match change with
      | .create lease => create ctx lease
      | .update current lease => update ctx current lease
      | .onEnd _ => Task.pure (.decided .allow) }

end Filter

end Admission
