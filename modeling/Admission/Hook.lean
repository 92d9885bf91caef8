import Admission.Lease.Violation
/-!
The moments of a lease's life at which enforcement is consulted, and the snapshots that each of
them comes with.
-/

namespace Admission

inductive Hook where
  | create
  | update
  | onEnd
  deriving DecidableEq, Repr

namespace Hook

/-- As logs and metrics call it. -/
def label : Hook → String
  | .create => "check_create"
  | .update => "check_update"
  | .onEnd => "on_end"

/-- As requests call it. -/
def name : Hook → String
  | .create => "create"
  | .update => "update"
  | .onEnd => "end"

def all : List Hook := [.create, .update, .onEnd]

def toJson (h : Hook) : Json := .text h.name

def decoder : Json.Decoder Hook := Json.Decoder.choice (all.map fun h => (h.name, h))

end Hook

/-- A new lease has no current one, and an ended lease has no proposed one. -/
inductive Change where
  | create (lease : Lease)
  | update (current lease : Lease)
  | onEnd (current : Lease)

namespace Change

def hook : Change → Hook
  | .create _ => .create
  | .update _ _ => .update
  | .onEnd _ => .onEnd

/-- The current lease comes before the proposed one. -/
def snapshots : Change → List Lease
  | .create lease => [lease]
  | .update current lease => [current, lease]
  | .onEnd current => [current]

def firstViolation? (c : Change) : Option Lease.Violation :=
  c.snapshots.findSome? Lease.violation?

def validate (c : Change) : Except Error Unit :=
  match c.firstViolation? with
  | none => .ok ()
  | some v => .error (.invalidRequest v.message)

end Change

end Admission
