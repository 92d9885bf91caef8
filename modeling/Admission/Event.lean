import Admission.Hook
import Admission.Text.Quoted
/-!
What enforcement logs. Each event has a level, a message and named fields.
-/

namespace Admission

inductive Event where
  | chainBuilt (filters : List String) (exemptProjects hookTimeoutMs : Nat)
  | sectionUnused (filter : String)
  | factoryReplaced (filter : String)
  | projectExempt (hook : Hook) (project : String)
  | lengthExempt (filter project : String)
  | allowed (hook : Hook) (filter project : String)
  | denied (hook : Hook) (filter project reason : String)
  | unavailable (hook : Hook) (filter project reason : String)
  | notDelegated (hook : Hook)
  | retrying (hook : Hook) (url : String) (attempt delayMs : Nat) (error : String)
  deriving DecidableEq

namespace Event

inductive Level where
  | debug
  | info
  | warn
  | error
  deriving DecidableEq, Repr

def Level.name : Level → String
  | .debug => "debug"
  | .info => "info"
  | .warn => "warn"
  | .error => "error"

def level : Event → Level
  | .chainBuilt _ _ _ => .info
  | .sectionUnused _ => .warn
  | .factoryReplaced _ => .warn
  | .projectExempt _ _ => .debug
  | .lengthExempt _ _ => .debug
  | .allowed _ _ _ => .debug
  | .denied _ _ _ _ => .warn
  | .unavailable _ _ _ _ => .error
  | .notDelegated _ => .debug
  | .retrying _ _ _ _ _ => .warn

def message : Event → String
  | .chainBuilt _ _ _ => "enforcement chain built"
  | .sectionUnused _ => "filter configured but not enabled"
  | .factoryReplaced _ => "filter factory replaced"
  | .projectExempt _ _ => "project exempt from enforcement"
  | .lengthExempt _ _ => "project exempt from length limit"
  | .allowed _ _ _ => "filter allowed"
  | .denied _ _ _ _ => "lease operation denied by policy"
  | .unavailable _ _ _ _ => "policy could not be evaluated"
  | .notDelegated _ => "no external policy url for hook, skipping"
  | .retrying _ _ _ _ _ => "external policy call failed, retrying"

def decisionFields (hook : Hook) (filter project outcome : String) : List (String × Json) :=
  [("hook", .text hook.label), ("filter", .text filter), ("project_id", .text project),
    ("outcome", .text outcome)]

def fields : Event → List (String × Json)
  | .chainBuilt filters exempt timeout =>
      [("filters", .text (Text.quotedList filters)), ("exempt_projects", .int exempt),
        ("hook_timeout_ms", .int timeout)]
  | .sectionUnused filter => [("filter", .text filter)]
  | .factoryReplaced filter => [("filter", .text filter)]
  | .projectExempt hook project => [("hook", .text hook.label), ("project_id", .text project)]
  | .lengthExempt filter project => [("filter", .text filter), ("project_id", .text project)]
  | .allowed hook filter project => decisionFields hook filter project "allowed"
  | .denied hook filter project reason =>
      decisionFields hook filter project "denied" ++ [("reason", .text reason)]
  | .unavailable hook filter project reason =>
      decisionFields hook filter project "unavailable" ++ [("reason", .text reason)]
  | .notDelegated hook => [("hook", .text hook.label)]
  | .retrying hook url attempt delay error =>
      [("hook", .text hook.label), ("url", .text url), ("attempt", .int attempt),
        ("delay_ms", .int delay), ("error", .text error)]

end Event

end Admission
