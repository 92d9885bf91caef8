import Admission.Check
import Std.Time.DateTime.Timestamp
/-!
The command line of the check. It reads the two files, the clock and the variable that the
configuration names, and makes no connections: a policy service that is configured is absent.
-/

namespace Admission.Main

def readFile (path : String) : IO Text.File := do
  try
    let bytes ← IO.FS.readBinFile path
    return Text.File.ofBytes bytes.toList
  catch e =>
    match e with
    | .noFileOrDirectory _ _ _ => return .error .missing
    | other => return .error (.other other.toString)

def now : IO Time.Instant := do
  let t ← Std.Time.Timestamp.now
  let nanos : Int := t.toNanosecondsSinceUnixEpoch.val
  let seconds := nanos / 1000000000
  return ⟨seconds / 86400, (seconds % 86400).toNat, (nanos % 1000000000).toNat⟩

/-- The variable that a configuration takes its token from. -/
def tokenVariable (path : String) (file : Text.File) : Option String := do
  let config ← (Config.loadFile path file).toOption
  let service ← config.filters.service
  service.tokenEnv

def environment (name : Option String) : IO (Table String String) := do
  match name with
  | none => return []
  | some name =>
      match ← IO.getEnv name with
      | none => return []
      | some value => return [(name, value)]

def run (arguments : List String) : IO UInt32 := do
  let paths := arguments.take 2
  let texts ← paths.mapM readFile
  let files (path : String) : Text.File := ((paths.zip texts).lookup path).getD (.error .missing)
  let name := paths.head?.bind fun path => tokenVariable path (files path)
  let uptime := Time.Uptime.ofNanos (← IO.monoNanosNow)
  let setting : Setting := ⟨← now, ← environment name, Service.absent, uptime⟩
  let report := Check.run setting arguments files
  IO.print report.stdout
  IO.eprint report.stderr
  return UInt32.ofNat report.status

end Admission.Main

def main (arguments : List String) : IO UInt32 := Admission.Main.run arguments
