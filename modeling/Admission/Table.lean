import Admission.Text.Order
/-!
Finite maps that list their entries in the order of the keys, each key once. The order is a
comparison given with every operation, so that a table is plain data.
-/

namespace Admission

abbrev Table (key value : Type) := List (key × value)

namespace Table

variable {key value : Type}

def find? (order : key → key → Ordering) (k : key) : Table key value → Option value
  | [] => none
  | (k', v) :: rest =>
      match order k k' with
      | .lt => none
      | .eq => some v
      | .gt => find? order k rest

/-- Changes the entry of `k`; a key that is not there yet starts from `start`. -/
def alter (order : key → key → Ordering) (k : key) (start : value) (f : value → value) :
    Table key value → Table key value
  | [] => [(k, f start)]
  | (k', v) :: rest =>
      match order k k' with
      | .lt => (k, f start) :: (k', v) :: rest
      | .eq => (k', f v) :: rest
      | .gt => (k', v) :: alter order k start f rest

def insert (order : key → key → Ordering) (k : key) (v : value) (t : Table key value) :
    Table key value :=
  alter order k v (fun _ => v) t

def keys (t : Table key value) : List key := t.map (·.1)

end Table

end Admission
