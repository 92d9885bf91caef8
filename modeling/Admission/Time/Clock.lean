import Admission.Time.Delay
/-!
The clock that budgets are measured on. Its seconds are a signed word, so there is a last moment
that it can show, and the end of a long delay may lie behind it.
-/

namespace Admission.Time

/-- All seconds of a signed word, and the nanoseconds short of one more. -/
def lastMoment : Nat := (UInt64.size / 2 - 1) * 1000000000 + 999999999

/-- A reading of the clock, in nanoseconds. No clock has run for half of what it can show. -/
structure Uptime where
  nanos : Nat
  early : 2 * nanos ≤ lastMoment

namespace Uptime

def zero : Uptime := ⟨0, Nat.zero_le _⟩

def ofNanos (n : Nat) : Uptime :=
  ⟨min n (lastMoment / 2), Nat.le_trans (Nat.mul_le_mul_left 2 (Nat.min_le_right _ _))
    (Nat.mul_div_le _ _)⟩

/-- The clock can show the moment that lies so far ahead. -/
def Reaches (u : Uptime) (d : Delay) : Prop := u.nanos + d.nanos ≤ lastMoment

instance (u : Uptime) (d : Delay) : Decidable (u.Reaches d) := Nat.decLe ..

end Uptime

end Admission.Time
