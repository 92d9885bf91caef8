/-!
Signed lengths of time in nanoseconds. Whole units are cut toward zero.
-/

namespace Admission.Time

structure Span where
  nanos : Int
  deriving DecidableEq, Repr

namespace Span

def nanosPerSecond : Int := 1000000000

def ofSeconds (s : Int) : Span := ⟨s * nanosPerSecond⟩

def wholeSeconds (s : Span) : Int := s.nanos.tdiv nanosPerSecond

def subsecondNanos (s : Span) : Int := s.nanos.tmod nanosPerSecond

def wholeDays (s : Span) : Int := s.wholeSeconds.tdiv 86400

instance : LT Span := ⟨fun a b => a.nanos < b.nanos⟩

instance : LE Span := ⟨fun a b => a.nanos ≤ b.nanos⟩

instance (a b : Span) : Decidable (a < b) := inferInstanceAs (Decidable (a.nanos < b.nanos))

instance (a b : Span) : Decidable (a ≤ b) := inferInstanceAs (Decidable (a.nanos ≤ b.nanos))

end Span

end Admission.Time
