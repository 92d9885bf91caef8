import Admission.Chain.Build
import Admission.Request
/-!
The check of one request against a configuration, both from files. The decision is printed as
JSON and told by the exit status: 0 allow, 1 deny, 2 error, 3 when there is no decision, 64 when
it was called wrongly, 101 when it crashed.
-/

namespace Admission.Check

def usage : String := "usage: leasegate-check <config.yaml> <request.json>"

structure Report where
  status : Nat
  stdout : String := ""
  stderr : String := ""
  exchanges : List Exchange := []

def status : Decision → Nat
  | .allow => 0
  | .deny _ _ => 1
  | .error _ _ => 2

def setupFailure : Nat := 3

def wrongUsage : Nat := 64

def crash : Nat := 101

def unreadable (path : String) (fault : Text.FileFault) : Error :=
  .invalidRequest ("read " ++ path ++ " failed: " ++ fault.message)

/-- The decision, or the first thing that kept it from being made. -/
def decide (s : Setting) (configPath requestPath : String) (files : String → Text.File) :
    Except Error (Ending × Journal Unit) := do
  let config ← (Config.loadFile configPath (files configPath)).mapError Config.Fault.error
  let (chain, events) ← Chain.ofConfig config Registry.builtin
  let text ← (files requestPath).mapError (unreadable requestPath)
  let request ← Request.parse text
  let change ← request.change
  .ok (chain.evaluate s request.context change { events := events, memory := () })

/-- What the program does with its arguments. Arguments beyond the second are ignored. -/
def run (s : Setting) (arguments : List String) (files : String → Text.File) : Report :=
  match arguments with
  | configPath :: requestPath :: _ =>
      match decide s configPath requestPath files with
      | .ok (.decided d, j) =>
          { status := status d, stdout := d.toJson.pretty ++ "\n", exchanges := j.exchanges }
      | .ok (.crashed _, j) => { status := crash, exchanges := j.exchanges }
      | .error _ => { status := setupFailure }
  | _ => { status := wrongUsage, stderr := usage ++ "\n" }

end Admission.Check
