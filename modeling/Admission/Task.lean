import Admission.Event
import Admission.Metrics.Basic
import Admission.Service
import Admission.Time.Clock
/-!
Work that takes time and leaves traces. A task sees its setting, runs until it is done or a
deadline cuts it off, and writes into a journal. What a deadline cuts off leaves the traces of
the part that was done.
-/

namespace Admission

/-- What a task can see but not change. -/
structure Setting where
  now : Time.Instant
  environment : Table String String
  service : Service
  -- the clock of budgets when the task starts
  uptime : Time.Uptime := .zero

-- `memory` is for filters that remember something.
structure Journal (σ : Type) where
  -- nanoseconds since the beginning
  elapsed : Nat := 0
  exchanges : List Exchange := []
  metrics : Metrics := {}
  events : List Event := []
  memory : σ

variable {σ α β : Type}

namespace Journal

def note (e : Event) (j : Journal σ) : Journal σ := { j with events := j.events ++ [e] }

def count (f : Metrics → Metrics) (j : Journal σ) : Journal σ := { j with metrics := f j.metrics }

end Journal

/-- The deadline is a moment of the journal's time, if there is one. -/
def Task (σ α : Type) : Type := Setting → Option Nat → Journal σ → Option α × Journal σ

namespace Task

def pure (a : α) : Task σ α := fun _ _ j => (some a, j)

def bind (t : Task σ α) (f : α → Task σ β) : Task σ β := fun s deadline j =>
  match t s deadline j with
  | (none, j) => (none, j)
  | (some a, j) => f a s deadline j

instance : Monad (Task σ) where
  pure := pure
  bind := bind

def setting : Task σ Setting := fun s _ j => (some s, j)

def journal : Task σ (Journal σ) := fun _ _ j => (some j, j)

def update (f : Journal σ → Journal σ) : Task σ Unit := fun _ _ j => (some (), f j)

def note (e : Event) : Task σ Unit := update (·.note e)

def count (f : Metrics → Metrics) : Task σ Unit := update (·.count f)

/-- Never ends; a deadline cuts it off when it is reached. -/
def never : Task σ α := fun _ deadline j =>
  (none, { j with elapsed := max j.elapsed (deadline.getD j.elapsed) })

/-- A wait that ends no later than the deadline is not cut off. -/
def wait (nanos : Nat) : Task σ Unit := fun s deadline j =>
  if deadline.all (j.elapsed + nanos ≤ ·) then
    (some (), { j with elapsed := j.elapsed + nanos })
  else never s deadline j

/-- Nothing is waited for where a task is ready at once, not even by an empty budget. -/
def run (t : Task σ α) (s : Setting) (deadline : Option Nat) (j : Journal σ) :
    Option α × Journal σ :=
  t s deadline j

end Task

end Admission
