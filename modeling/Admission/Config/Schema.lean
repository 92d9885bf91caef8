import Admission.Config.Basic
import Admission.Json.Record
import Admission.Yaml.Reader
/-!
The form of a configuration, said once and read from YAML as well as from JSON. Every record is
strict: a key that is no field, or that comes twice, is refused.
-/

namespace Admission.Config

/-- A value in both formats. -/
structure Reading (α : Type) where
  json : Json.Decoder α
  yaml : Yaml.Reader α

namespace Reading

variable {α : Type}

def text : Reading String := ⟨Json.Decoder.text, Yaml.Reader.text⟩

def word32 : Reading Nat := ⟨Json.Decoder.word32, Yaml.Reader.word32⟩

def word64 : Reading Nat := ⟨Json.Decoder.word64, Yaml.Reader.word64⟩

def optional (r : Reading α) : Reading (Option α) :=
  ⟨Json.Decoder.optional r.json, Yaml.Reader.optional r.yaml⟩

def list (r : Reading α) : Reading (List α) :=
  ⟨Json.Decoder.list r.json, Yaml.Reader.list r.yaml⟩

def choice (variants : List (String × α)) : Reading α :=
  ⟨Json.Decoder.choice variants, Yaml.Reader.choice variants⟩

def record (name : String) (r : Record Reading α) : Reading α :=
  ⟨Json.record (.ofName name true r.size) (r.mapReader (·.json)),
    Yaml.Reader.record (r.mapReader (·.yaml))⟩

end Reading

def lengthSection : Record Reading LengthSection :=
  Record.of LengthSection.mk
    |>.required "max_reservation_length" Reading.word64
    |>.defaulted "reservation_extension_window" Reading.word64.optional none
    |>.defaulted "exempt_project_ids" Reading.text.list []

def authHeader : Reading AuthHeader := Reading.choice (AuthHeader.all.map fun h => (h.name, h))

def serviceSection : Record Reading ServiceSection :=
  let absent : ServiceSection := {}
  Record.of ServiceSection.mk
    |>.defaulted "endpoint" Reading.text.optional absent.endpoint
    |>.defaulted "check_create_url" Reading.text.optional absent.checkCreateUrl
    |>.defaulted "check_update_url" Reading.text.optional absent.checkUpdateUrl
    |>.defaulted "on_end_url" Reading.text.optional absent.onEndUrl
    |>.defaulted "token" Reading.text.optional absent.token
    |>.defaulted "token_env" Reading.text.optional absent.tokenEnv
    |>.defaulted "auth_header" authHeader absent.authHeader
    |>.defaulted "timeout_ms" Reading.word64 absent.timeout
    |>.defaulted "connect_timeout_ms" Reading.word64 absent.connectTimeout
    |>.defaulted "max_retries" Reading.word32 absent.maxRetries
    |>.defaulted "backoff_initial_ms" Reading.word64 absent.backoffInitial
    |>.defaulted "backoff_max_ms" Reading.word64 absent.backoffMax

def lengthReading : Reading LengthSection :=
  Reading.record "MaxReservationLengthConfig" lengthSection

def serviceReading : Reading ServiceSection :=
  Reading.record "ExternalServiceConfig" serviceSection

def filtersSection : Record Reading FiltersSection :=
  Record.of FiltersSection.mk
    |>.defaulted "max_reservation_length" lengthReading.optional none
    |>.defaulted "external_service" serviceReading.optional none

def enforcementSection : Record Reading EnforcementSection :=
  let absent : EnforcementSection := {}
  Record.of EnforcementSection.mk
    |>.defaulted "enabled_filters" Reading.text.list absent.enabledFilters
    |>.defaulted "exempt_projects" Reading.text.list absent.exemptProjects
    |>.defaulted "hook_timeout_ms" Reading.word64 absent.hookTimeout

def filtersReading : Reading FiltersSection := Reading.record "FiltersSection" filtersSection

def enforcementReading : Reading EnforcementSection :=
  Reading.record "EnforcementSection" enforcementSection

def config : Record Reading Config :=
  Record.of Config.mk
    |>.required "version" Reading.word32
    |>.defaulted "enforcement" enforcementReading {}
    |>.defaulted "filters" filtersReading {}

def reading : Reading Config := Reading.record "LeaseGateConfig" config

end Admission.Config
