import Admission.Decision
import Admission.Hook
import Admission.Metrics.Histogram
/-!
What enforcement counts: decisions, calls for exempt projects, and calls of the remote policy
service with the time they took. `render` is the text that a collector reads.
-/

namespace Admission

/-- How a remote call ended. -/
inductive CallResult where
  | allowed
  | denied
  | badStatus
  | transportError
  deriving DecidableEq, Repr

def CallResult.label : CallResult → String
  | .allowed => "allowed"
  | .denied => "denied"
  | .badStatus => "bad_status"
  | .transportError => "transport_error"

structure Metrics where
  -- by hook, filter and outcome
  decisions : Metrics.Counter := []
  -- by hook
  exempt : Metrics.Counter := []
  -- by hook and result
  remoteCalls : Metrics.Counter := []
  -- by hook
  remoteCallDuration : Metrics.Histogram := []

namespace Metrics

def decisionLabels (hook : Hook) (filter outcome : String) : List Label :=
  [("hook", hook.label), ("filter", filter), ("outcome", outcome)]

def hookLabels (hook : Hook) : List Label := [("hook", hook.label)]

def callLabels (hook : Hook) (result : CallResult) : List Label :=
  [("hook", hook.label), ("result", result.label)]

def countDecision (hook : Hook) (filter : String) (d : Decision) (m : Metrics) : Metrics :=
  { m with decisions := m.decisions.inc (decisionLabels hook filter d.outcome) }

def countExempt (hook : Hook) (m : Metrics) : Metrics :=
  { m with exempt := m.exempt.inc (hookLabels hook) }

def countCall (hook : Hook) (result : CallResult) (m : Metrics) : Metrics :=
  { m with remoteCalls := m.remoteCalls.inc (callLabels hook result) }

def observeCall (hook : Hook) (d : Time.Delay) (m : Metrics) : Metrics :=
  { m with remoteCallDuration := m.remoteCallDuration.observe (hookLabels hook) d }

def chars (m : Metrics) : List Char :=
  m.decisions.chars "leasegate_decisions_total" ++
    m.exempt.chars "leasegate_exempt_total" ++
    m.remoteCalls.chars "leasegate_remote_calls_total" ++
    m.remoteCallDuration.chars "leasegate_remote_call_duration_micros"

def render (m : Metrics) : String := String.ofList m.chars

end Metrics

end Admission
