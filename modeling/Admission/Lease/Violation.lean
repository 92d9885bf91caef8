import Admission.Error
import Admission.Lease.Basic
/-!
The invariants of a lease: its window is not empty, no reservation asks for more than its
maximum, and no allocation appears twice. `violation?` gives the first one that is broken, the
window first and then reservation by reservation, counts before allocations.
-/

namespace Admission.Lease

open Time (Instant)

inductive Violation where
  | window (endDate startDate : Instant)
  | counts (index : Nat) (resourceType : String) (min max : Nat)
  | allocation (id : String)
  deriving DecidableEq, Repr

def Violation.message : Violation → String
  | .window endDate startDate =>
      "lease end_date " ++ endDate.display ++ " must be after start_date " ++ startDate.display
  | .counts index resourceType min max =>
      "reservation " ++ toString index ++ " (" ++ resourceType ++ "): min " ++ toString min ++
        " exceeds max " ++ toString max
  | .allocation id => "allocation " ++ id ++ " appears in more than one reservation"

/-- The first id that is in `seen` or repeats, or all ids seen after the last one. -/
def scanAllocations (seen : List String) : List Allocation → Except String (List String)
  | [] => .ok seen
  | a :: rest => if a.id ∈ seen then .error a.id else scanAllocations (a.id :: seen) rest

def scanReservations (index : Nat) (seen : List String) : List Reservation → Option Violation
  | [] => none
  | r :: rest =>
      if r.max < r.min then some (.counts index r.resourceType r.min r.max)
      else match scanAllocations seen r.allocations with
        | .error id => some (.allocation id)
        | .ok seen => scanReservations (index + 1) seen rest

def violation? (l : Lease) : Option Violation :=
  if l.endDate ≤ l.startDate then some (.window l.endDate l.startDate)
  else scanReservations 0 [] l.reservations

def validate (l : Lease) : Except Error Unit :=
  match l.violation? with
  | none => .ok ()
  | some v => .error (.invalidRequest v.message)

end Admission.Lease
