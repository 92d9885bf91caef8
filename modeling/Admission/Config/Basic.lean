import Admission.Credential
/-!
The configuration: which filters are enabled, who is exempt, and a section for each filter that
has parameters.
-/

namespace Admission

/-- Lengths are in seconds. -/
structure LengthSection where
  maxLength : Nat
  -- how long before its end a lease may be extended by another full length
  extensionWindow : Option Nat := none
  exemptProjects : List String := []
  deriving DecidableEq, Repr

/-- Times are in milliseconds. -/
structure ServiceSection where
  -- base of all URLs that are not given one by one
  endpoint : Option String := none
  checkCreateUrl : Option String := none
  checkUpdateUrl : Option String := none
  onEndUrl : Option String := none
  token : Option String := none
  -- the environment variable that holds the token
  tokenEnv : Option String := none
  authHeader : AuthHeader := .bearer
  timeout : Nat := 5000
  connectTimeout : Nat := 2000
  -- further attempts where no response came
  maxRetries : Nat := 0
  backoffInitial : Nat := 100
  backoffMax : Nat := 2000
  deriving DecidableEq, Repr

structure FiltersSection where
  lengthLimit : Option LengthSection := none
  service : Option ServiceSection := none
  deriving DecidableEq, Repr

structure EnforcementSection where
  -- in the order of their evaluation
  enabledFilters : List String := []
  -- projects that no filter is asked about
  exemptProjects : List String := []
  hookTimeout : Nat := 30000
  deriving DecidableEq, Repr

structure Config where
  version : Nat
  enforcement : EnforcementSection := {}
  filters : FiltersSection := {}
  deriving DecidableEq, Repr

end Admission
