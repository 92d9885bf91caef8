import Admission.Table
import Admission.Text.Blank
/-!
The token presented to the remote policy service: where it comes from and which header carries it.
-/

namespace Admission

inductive AuthHeader where
  | bearer
  | xAuthToken
  deriving DecidableEq, Repr

namespace AuthHeader

def name : AuthHeader → String
  | .bearer => "bearer"
  | .xAuthToken => "x_auth_token"

def all : List AuthHeader := [.bearer, .xAuthToken]

def value (h : AuthHeader) (token : String) : String :=
  match h with
  | .bearer => "Bearer " ++ token
  | .xAuthToken => token

end AuthHeader

/-- Anything but control characters; a tab is no control character here. -/
def legalInHeader (c : Char) : Bool := c == '\t' || (0x20 ≤ c.toNat && c.toNat != 0x7F)

inductive TokenSource where
  | fixed (token : String)
  -- an environment variable, read on every call
  | variable (name : String)
  deriving DecidableEq, Repr

namespace TokenSource

/-- A variable that is unset or blank gives no token but its name. -/
def token (environment : Table String String) : TokenSource → Except String String
  | .fixed token => .ok token
  | .variable name =>
      match environment.find? Text.order name with
      | some v => if Text.blank v then .error name else .ok v
      | none => .error name

end TokenSource

end Admission
