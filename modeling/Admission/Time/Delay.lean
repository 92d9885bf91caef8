/-!
Lengths of time to wait, in nanoseconds from zero up to a longest one. Sums and products that
would be longer stop there.
-/

namespace Admission.Time

/-- A word of seconds and the nanoseconds short of one more. -/
def longestNanos : Nat := (UInt64.size - 1) * 1000000000 + 999999999

structure Delay where
  nanos : Nat
  le_longest : nanos ≤ longestNanos
  deriving DecidableEq

namespace Delay

def ofNanos (n : Nat) : Delay := ⟨min n longestNanos, Nat.min_le_right _ _⟩

def longest : Delay := ⟨longestNanos, Nat.le_refl _⟩

def ofMillis (n : Nat) : Delay := ofNanos (n * 1000000)

def ofParts (seconds nanos : Nat) : Delay := ofNanos (seconds * 1000000000 + nanos)

def seconds (d : Delay) : Nat := d.nanos / 1000000000

def subsecondNanos (d : Delay) : Nat := d.nanos % 1000000000

def millis (d : Delay) : Nat := d.nanos / 1000000

def micros (d : Delay) : Nat := d.nanos / 1000

def times (d : Delay) (n : Nat) : Delay := ofNanos (d.nanos * n)

def shorter (a b : Delay) : Delay := if a.nanos ≤ b.nanos then a else b

end Delay

end Admission.Time
