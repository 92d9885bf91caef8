/-!
The errors of the public operations: what kind each is and how it reads.
-/

namespace Admission

inductive Error where
  -- a filter rejected the operation
  | policyDenied (filter reason : String)
  -- a filter could not decide
  | policyUnavailable (filter reason : String)
  | configuration (reason : String)
  | invalidRequest (reason : String)
  | internal (reason : String)
  deriving DecidableEq, Repr

namespace Error

/-- The stable code for callers. -/
def code : Error → String
  | .policyDenied _ _ => "POLICY_DENIED"
  | .policyUnavailable _ _ => "POLICY_UNAVAILABLE"
  | .configuration _ => "CONFIGURATION"
  | .invalidRequest _ => "INVALID_REQUEST"
  | .internal _ => "INTERNAL"

def message : Error → String
  | .policyDenied filter reason => "policy denied by " ++ filter ++ ": " ++ reason
  | .policyUnavailable filter reason => "policy unavailable (" ++ filter ++ "): " ++ reason
  | .configuration reason => "configuration error: " ++ reason
  | .invalidRequest reason => "invalid request: " ++ reason
  | .internal reason => "internal: " ++ reason

end Error

end Admission
