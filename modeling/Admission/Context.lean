import Admission.Error
import Admission.Json.Record
import Admission.Text.Blank
/-!
Who asks and where: the principal and the environment of one enforcement call.
-/

namespace Admission

structure Context where
  userId : String
  projectId : String
  authUrl : String
  regionName : String
  deriving DecidableEq, Repr

namespace Context

def fields (c : Context) : List (String × String) :=
  [("user_id", c.userId), ("project_id", c.projectId), ("auth_url", c.authUrl),
    ("region_name", c.regionName)]

/-- The first field that is empty or all white space. -/
def blankField? (c : Context) : Option String :=
  (c.fields.find? fun field => Text.blank field.2).map (·.1)

def validate (c : Context) : Except Error Unit :=
  match c.blankField? with
  | none => .ok ()
  | some name => .error (.invalidRequest ("context." ++ name ++ " must not be empty"))

def toJson (c : Context) : Json := .object (c.fields.map fun field => (field.1, .text field.2))

def record : Record Json.Decoder Context :=
  Record.of Context.mk
    |>.required "user_id" Json.Decoder.text
    |>.required "project_id" Json.Decoder.text
    |>.required "auth_url" Json.Decoder.text
    |>.required "region_name" Json.Decoder.text

def decoder : Json.Decoder Context :=
  Json.record (.ofName "EnforcementContext" false record.size) record

end Context

end Admission
