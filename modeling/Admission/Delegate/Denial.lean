import Admission.Json.Record
import Admission.Text.Blank
/-!
The reason of a denial, taken from the body of the response: its message if it is JSON that has
one, or else the text itself.
-/

namespace Admission.Delegate

structure DenyBody where
  message : Option String

namespace DenyBody

def record : Record Json.Decoder DenyBody :=
  Record.of DenyBody.mk
    |>.defaulted "message" (Json.Decoder.optional Json.Decoder.text) none

def decoder : Json.Decoder DenyBody := Json.record (.ofName "DenyBody" false record.size) record

/-- The message of a body, unless there is none or it is blank. -/
def message? (body : String) : Option String := do
  let b ← (decoder.run body).toOption
  let m ← b.message
  if Text.blank m then none else some m

end DenyBody

def noReason : String := "denied by external policy service"

def denyReason (body : String) : String :=
  match DenyBody.message? body with
  | some m => m
  | none => if Text.blank body then noReason else Text.trimmed body

end Admission.Delegate
