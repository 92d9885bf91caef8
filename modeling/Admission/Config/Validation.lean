import Admission.Config.Schema
import Admission.Error
import Admission.Text.File
import Admission.Url.Reader
/-!
The rules a configuration has to keep beyond its form, and loading: a text is read and checked.
The first broken rule is reported.
-/

namespace Admission

inductive Config.Fault where
  | unreadable (path : String) (fault : Text.FileFault)
  -- the text is not one of a configuration; what is wrong with it is not told
  | malformed
  | version (found : Nat)
  | repeatedFilter (name : String)
  | hookTimeout
  | lengthZero
  | lengthTooLong
  | windowZero
  | windowTooLong
  | noUrl
  | url (field : String) (fault : Url.Fault)
  | scheme (field : String) (name : List Char)
  | twoTokens
  | noToken
  | timeout
  | connectTimeout
  | retries
  | backoff
  deriving DecidableEq, Repr

namespace Config

def longestLength : Nat := 100 * 365 * 86400

def Fault.reason : Fault → String
  | .unreadable path fault => "read config " ++ path ++ " failed: " ++ fault.message
  | .malformed => "invalid yaml"
  | .version found => "unsupported config version " ++ toString found ++ " (expected 1)"
  | .repeatedFilter name => "enforcement.enabled_filters lists " ++ name ++ " more than once"
  | .hookTimeout => "enforcement.hook_timeout_ms must be between 100 and 600000"
  | .lengthZero => "filters.max_reservation_length.max_reservation_length must be positive"
  | .lengthTooLong =>
      "filters.max_reservation_length.max_reservation_length must not exceed " ++
        toString longestLength
  | .windowZero =>
      "filters.max_reservation_length.reservation_extension_window must be positive"
  | .windowTooLong =>
      "filters.max_reservation_length.reservation_extension_window must not exceed " ++
        toString longestLength
  | .noUrl => "filters.external_service needs an endpoint or at least one hook url"
  | .url field fault => "filters.external_service." ++ field ++ ": " ++ fault.message
  | .scheme field name =>
      "filters.external_service." ++ field ++ ": unsupported scheme " ++ String.ofList name
  | .twoTokens => "filters.external_service: set only one of token and token_env"
  | .noToken => "filters.external_service requires token or token_env"
  | .timeout => "filters.external_service.timeout_ms must be between 1 and 300000"
  | .connectTimeout =>
      "filters.external_service.connect_timeout_ms must be positive and not exceed timeout_ms"
  | .retries => "filters.external_service.max_retries must be at most 10"
  | .backoff => "filters.external_service.backoff_initial_ms must not exceed backoff_max_ms"

def Fault.error (f : Fault) : Error := .configuration f.reason

/-- The first name that stands in the list again after it was seen. -/
def repeated? (seen : List String) : List String → Option String
  | [] => none
  | name :: rest => if name ∈ seen then some name else repeated? (name :: seen) rest

/-- A rule that holds or the fault that it is broken. -/
def demand (holds : Bool) (fault : Fault) : Except Fault Unit :=
  if holds then .ok () else .error fault

end Config

open Config (Fault demand longestLength)

namespace LengthSection

def validate (c : LengthSection) : Except Fault Unit := do
  demand (c.maxLength != 0) .lengthZero
  demand (c.maxLength ≤ longestLength) .lengthTooLong
  demand (c.extensionWindow != some 0) .windowZero
  demand (c.extensionWindow.all (· ≤ longestLength)) .windowTooLong

end LengthSection

namespace ServiceSection

def urls (c : ServiceSection) : List (String × Option String) :=
  [("endpoint", c.endpoint), ("check_create_url", c.checkCreateUrl),
    ("check_update_url", c.checkUpdateUrl), ("on_end_url", c.onEndUrl)]

def validateUrl (field raw : String) : Except Fault Unit :=
  match Url.parse raw with
  | .error fault => .error (.url field fault)
  | .ok u => demand (u.scheme == Url.http || u.scheme == Url.https) (.scheme field u.scheme)

def validateUrls : List (String × Option String) → Except Fault Unit
  | [] => .ok ()
  | (_, none) :: rest => validateUrls rest
  | (field, some raw) :: rest => do
      validateUrl field raw
      validateUrls rest

def validate (c : ServiceSection) : Except Fault Unit := do
  demand (c.urls.any fun u => u.2.isSome) .noUrl
  validateUrls c.urls
  demand (c.token.isNone || c.tokenEnv.isNone) .twoTokens
  demand (c.token.isSome || c.tokenEnv.isSome) .noToken
  demand (1 ≤ c.timeout && c.timeout ≤ 300000) .timeout
  demand (c.connectTimeout != 0 && c.connectTimeout ≤ c.timeout) .connectTimeout
  demand (c.maxRetries ≤ 10) .retries
  demand (c.backoffInitial ≤ c.backoffMax) .backoff

end ServiceSection

namespace EnforcementSection

def validate (c : EnforcementSection) : Except Fault Unit := do
  match Config.repeated? [] c.enabledFilters with
  | some name => .error (.repeatedFilter name)
  | none => demand (100 ≤ c.hookTimeout && c.hookTimeout ≤ 600000) .hookTimeout

end EnforcementSection

namespace FiltersSection

def validate (c : FiltersSection) : Except Fault Unit := do
  match c.lengthLimit with
  | some s => s.validate
  | none => .ok ()
  match c.service with
  | some s => s.validate
  | none => .ok ()

end FiltersSection

namespace Config

def validate (c : Config) : Except Fault Unit := do
  demand (c.version == 1) (.version c.version)
  c.enforcement.validate
  c.filters.validate

def checked (c : Config) : Except Fault Config := do
  c.validate
  .ok c

def load (s : String) : Except Fault Config :=
  match Yaml.read? reading.yaml s with
  | none => .error .malformed
  | some c => c.checked

def loadFile (path : String) (file : Text.File) : Except Fault Config :=
  match file with
  | .error fault => .error (.unreadable path fault)
  | .ok s => load s

end Config

end Admission
