import Admission.Config.Basic
import Admission.Error
import Admission.Hook
import Admission.Url.Reader
/-!
The URL that each hook is delegated to: the one given for the hook, or else a fixed path below
the endpoint. A hook with neither is not delegated.
-/

namespace Admission.Delegate

def hookPath : Hook → String
  | .create => "/v1/check-create"
  | .update => "/v1/check-update"
  | .onEnd => "/v1/on-end"

def overrideUrl (c : ServiceSection) : Hook → Option String
  | .create => c.checkCreateUrl
  | .update => c.checkUpdateUrl
  | .onEnd => c.onEndUrl

def withoutSlashes (cs : List Char) : List Char := (cs.reverse.dropWhile (· = '/')).reverse

def below (endpoint path : String) : String :=
  String.ofList (withoutSlashes endpoint.toList ++ path.toList)

def targetText (c : ServiceSection) (h : Hook) : Option String :=
  match overrideUrl c h with
  | some url => some url
  | none => c.endpoint.map fun endpoint => below endpoint (hookPath h)

def parseTarget (raw : String) : Except Error Url :=
  (Url.parse raw).mapError fun fault =>
    .configuration ("invalid external service url " ++ raw ++ ": " ++ fault.message)

def target (c : ServiceSection) (h : Hook) : Except Error (Option Url) :=
  match targetText c h with
  | none => .ok none
  | some raw => (parseTarget raw).map some

structure Targets where
  create : Option Url
  update : Option Url
  onEnd : Option Url
  deriving DecidableEq, Repr

namespace Targets

def resolve (c : ServiceSection) : Except Error Targets := do
  let create ← target c .create
  let update ← target c .update
  let onEnd ← target c .onEnd
  .ok ⟨create, update, onEnd⟩

def get (t : Targets) : Hook → Option Url
  | .create => t.create
  | .update => t.update
  | .onEnd => t.onEnd

end Targets

end Admission.Delegate
