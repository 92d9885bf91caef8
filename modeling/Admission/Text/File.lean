import Admission.Text.Utf8
/-!
The text of a file, or why there is none.
-/

namespace Admission.Text

inductive FileFault where
  | missing
  | notText
  | other (reason : String)
  deriving DecidableEq, Repr

def FileFault.message : FileFault → String
  | .missing => "No such file or directory (os error 2)"
  | .notText => "stream did not contain valid UTF-8"
  | .other reason => reason

abbrev File := Except FileFault String

def File.ofBytes (bytes : List UInt8) : File :=
  match Utf8.decode? bytes with
  | some cs => .ok (String.ofList cs)
  | none => .error .notText

end Admission.Text
