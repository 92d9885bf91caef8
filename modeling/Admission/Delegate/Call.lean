import Admission.Delegate.Attempt
import Admission.Delegate.Denial
import Admission.Retry
/-!
A call of the policy service: attempts until one of them is not a transport failure, or the
retries are used up. What the last attempt gave is the decision.
-/

namespace Admission.Delegate

def filterName : String := "ExternalServiceFilter"

variable {σ : Type}

/-- What a call does besides asking: whether it is counted, and when it tries again. -/
structure Caller where
  counted : Bool
  retry : Retry

namespace Caller

def count (c : Caller) (f : Metrics → Metrics) : Task σ Unit :=
  if c.counted then Task.count f else Task.pure ()

def finish (c : Caller) (hook : Hook) (r : Response) : Task σ Decision := do
  if r.status = 204 then
    c.count (Metrics.countCall hook .allowed)
    return .allow
  if r.status = forbidden then
    c.count (Metrics.countCall hook .denied)
    return .deny filterName (denyReason r.body)
  c.count (Metrics.countCall hook .badStatus)
  return .error filterName ("external policy service returned HTTP " ++ toString r.status ++
    "; only 204 and 403 are supported")

def describe (timedOut : Bool) (text : String) : String :=
  (if timedOut then "timed out (" else "connection failed (") ++ text ++ ")"

def unreachable (attempts : Nat) (timedOut : Bool) (text : String) : Decision :=
  .error filterName ("external policy service unreachable after " ++ toString attempts ++
    " attempt(s): " ++ describe timedOut text)

/-- One attempt with the time it took. -/
def timed (c : Caller) (hook : Hook) (attempt : Task σ Outcome) : Task σ Outcome := do
  let start ← Task.journal
  let result ← attempt
  let stop ← Task.journal
  c.count (Metrics.observeCall hook (Time.Delay.ofNanos (stop.elapsed - start.elapsed)))
  return result

-- `send` makes an attempt, given how many failed before; `left` retries remain.
def callFrom (c : Caller) (hook : Hook) (url : Url) (send : Nat → Task σ Outcome) :
    Nat → Nat → Task σ Decision
  | left, failed => do
      match ← c.timed hook (send failed) with
      | .ok response => c.finish hook response
      | .error (.fatal reason) =>
          c.count (Metrics.countCall hook .transportError)
          return .error filterName reason
      | .error (.transport timedOut text) =>
          c.count (Metrics.countCall hook .transportError)
          match left with
          | 0 => return unreachable (failed + 1) timedOut text
          | left + 1 =>
              let delay := c.retry.delay (failed + 1)
              let millis := min delay.millis (UInt64.size - 1)
              Task.note (.retrying hook url.write (failed + 1) millis text)
              Task.wait delay.nanos
              callFrom c hook url send left (failed + 1)
termination_by structural left => left

def call (c : Caller) (hook : Hook) (url : Url) (send : Nat → Task σ Outcome) : Task σ Decision :=
  c.callFrom hook url send c.retry.limit 0

end Caller

end Admission.Delegate
