import Admission.Task
/-!
One attempt to ask the policy service. It gives a response, or no response came and it can be
tried again, or it fails for good. A response has a body only where the body matters.
-/

namespace Admission.Delegate

structure Response where
  status : Nat
  body : String
  deriving DecidableEq, Repr

inductive Failure where
  -- no connection, or no response in time
  | transport (timedOut : Bool) (text : String)
  | fatal (reason : String)
  deriving DecidableEq, Repr

abbrev Outcome := Except Failure Response

structure Limits where
  -- nanoseconds for a whole attempt, and for its connection
  total : Nat
  connect : Nat

def sendError (url : Url) : String :=
  "error sending request for url (" ++ url.withoutCredentials.write ++ ")"

def badScheme (url : Url) : String :=
  "builder error for url (" ++ (if url.hasServer then url.withoutCredentials else url).write ++ ")"

def requestFailed (text : String) : Failure := .fatal ("external policy request failed: " ++ text)

variable {σ : Type}

/-- Asks the service and writes down what was said. -/
def exchange (post : Post) : Task σ Reply := fun s _ j =>
  let reply := s.service j.exchanges post
  (some reply, { j with exchanges := j.exchanges ++ [⟨post, reply⟩] })

/-- Waits for something that may take too long. -/
def within (limit : Nat) (after : Option Nat) : Task σ Bool := do
  match after with
  | some n =>
      if n ≤ limit then
        Task.wait n
        return true
      Task.wait limit
      return false
  | none =>
      Task.wait limit
      return false

def forbidden : Nat := 403

/-- A body that cannot be read counts as empty. -/
def readBody (left : Nat) (content : Content) : Task σ String := do
  if ← within left content.after then
    return String.ofList ((content.bytes.map Text.Utf8.decodeLossy).getD [])
  return ""

def receive (limits : Limits) (url : Url) (reply : Reply) : Task σ Outcome := do
  let limit := match reply.arrival with
    | .refused => min limits.connect limits.total
    | _ => limits.total
  if !(← within limit reply.after) then return .error (.transport true (sendError url))
  match reply.arrival with
  | .refused => return .error (.transport false (sendError url))
  | .closed => return .error (requestFailed (sendError url))
  | .response status content =>
      if status = forbidden then
        return .ok ⟨status, ← readBody (limit - reply.after.getD 0) content⟩
      return .ok ⟨status, ""⟩

/-- What one attempt needs besides its URL and body. -/
structure Sender where
  limits : Limits
  header : AuthHeader
  token : TokenSource

/-- The token is taken anew for every attempt. Only a request that can be sent reaches the
service. -/
def Sender.attempt (c : Sender) (url : Url) (body : String) : Task σ Outcome := do
  let s ← Task.setting
  match c.token.token s.environment with
  | .error name =>
      let reason := Error.internal ("token variable " ++ name ++ " is unset or empty")
      return .error (.fatal ("token unavailable: " ++ reason.message))
  | .ok token =>
      let value := c.header.value token
      if !value.toList.all legalInHeader then
        return .error (.fatal "token is not a valid header value")
      if url.scheme ≠ Url.http ∧ url.scheme ≠ Url.https then
        return .error (requestFailed (badScheme url))
      let reply ← exchange ⟨url.withoutCredentials, c.header, value, body⟩
      receive c.limits url reply

end Admission.Delegate
