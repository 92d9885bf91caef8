import Admission.Credential
import Admission.Url.Basic
/-!
The remote policy service as its caller sees it. Redirects are followed on the way, so a request has
one reply, the one in which they end. Times are nanoseconds; a time that is missing never comes.
-/

namespace Admission

/-- A request that is sent to the service. -/
structure Post where
  url : Url
  header : AuthHeader
  value : String
  body : String
  deriving DecidableEq

/-- The content of a response: when it has arrived or broken off, and its bytes unless it broke
off. -/
structure Content where
  after : Option Nat
  bytes : Option (List UInt8)
  deriving DecidableEq

/-- What comes in the end, after redirects. -/
inductive Arrival where
  -- no connection could be made
  | refused
  -- the connection ended before a response
  | closed
  | response (status : Nat) (content : Content)
  deriving DecidableEq

structure Reply where
  after : Option Nat
  arrival : Arrival
  deriving DecidableEq

structure Exchange where
  post : Post
  reply : Reply
  deriving DecidableEq

/-- What the service replies, given what went before. -/
abbrev Service := List Exchange → Post → Reply

/-- Nobody listens. -/
def Service.absent : Service := fun _ _ => ⟨some 0, .refused⟩

/-- Replies from a list in turn, and one for all that follow. Refused connections use up none. -/
def Service.scripted (replies : List Reply) (last : Reply) : Service := fun before _ =>
  let answered := before.filter fun e => e.reply.arrival ≠ .refused
  (replies[answered.length]?).getD last

end Admission
