import Admission.Time.Delay
/-!
When a failed call is tried again: how often at most, and after what delay. The delay doubles
from one retry to the next until it reaches a cap.
-/

namespace Admission

open Time (Delay)

structure Retry where
  -- attempts after the first one
  limit : Nat
  initial : Delay
  longest : Delay

namespace Retry

/-- The doublings before a retry, as a factor that stays within thirty-two bits. -/
def factor (attempt : Nat) : Nat :=
  if attempt - 1 < 32 then Nat.pow 2 (attempt - 1) else UInt32.size - 1

/-- The delay before retry `attempt`, counted from one. -/
def delay (r : Retry) (attempt : Nat) : Delay :=
  (r.initial.times (factor attempt)).shorter r.longest

end Retry

end Admission
