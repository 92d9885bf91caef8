import Admission.Config.Validation
import Admission.Proofs.Except
/-!
What configurations that are accepted keep.
-/

namespace Admission

namespace Config

theorem of_demand {holds : Bool} {fault : Fault} (done : demand holds fault = .ok ()) :
    holds = true := by
  cases holds with
  | true => rfl
  | false => cases done

end Config

namespace ServiceSection

open Config (of_demand)

/-- A URL of a server that is asked. -/
def Web (u : Url) : Prop := u.scheme = Url.http ∨ u.scheme = Url.https

theorem Web.special {u : Url} (web : Web u) : Url.isSpecial u.scheme = true := by
  rcases web with same | same <;> rw [same] <;> decide

theorem Web.not_file {u : Url} (web : Web u) : Url.isFile u.scheme = false := by
  rcases web with same | same <;> rw [same] <;> decide

theorem of_validateUrl {field raw : String} (valid : validateUrl field raw = .ok ()) :
    ∃ u, Url.parse raw = .ok u ∧ Web u := by
  unfold validateUrl at valid
  split at valid
  · cases valid
  · rename_i u read
    exact ⟨u, read, by simpa [Web] using of_demand valid⟩

theorem of_validateUrls {urls : List (String × Option String)} (valid : validateUrls urls = .ok ())
    {field raw : String} (member : (field, some raw) ∈ urls) :
    ∃ u, Url.parse raw = .ok u ∧ Web u := by
  induction urls with
  | nil => cases member
  | cons url urls ih =>
    obtain ⟨name, value⟩ := url
    cases value with
    | none => exact ih valid (by simpa using member)
    | some text =>
      obtain ⟨_, here, later⟩ := of_bind_ok valid
      rcases List.mem_cons.mp member with same | member
      · cases same
        exact of_validateUrl here
      · exact ih later member

/-- Every URL of an accepted section is one of a server. -/
theorem url_of_validate {c : ServiceSection} (valid : c.validate = .ok ()) {field raw : String}
    (member : (field, some raw) ∈ c.urls) : ∃ u, Url.parse raw = .ok u ∧ Web u := by
  obtain ⟨_, _, valid⟩ := of_bind_ok valid
  obtain ⟨_, urls, _⟩ := of_bind_ok valid
  exact of_validateUrls urls member

/-- An accepted section says where its token comes from. -/
theorem token_of_validate {c : ServiceSection} (valid : c.validate = .ok ()) :
    c.token.isSome = true ∨ c.tokenEnv.isSome = true := by
  obtain ⟨_, _, valid⟩ := of_bind_ok valid
  obtain ⟨_, _, valid⟩ := of_bind_ok valid
  obtain ⟨_, _, valid⟩ := of_bind_ok valid
  obtain ⟨_, given, _⟩ := of_bind_ok valid
  simpa using of_demand given

/-- Retries are few, and their delays begin below the cap. -/
theorem retries_of_validate {c : ServiceSection} (valid : c.validate = .ok ()) :
    c.maxRetries ≤ 10 ∧ c.backoffInitial ≤ c.backoffMax := by
  obtain ⟨_, _, valid⟩ := of_bind_ok valid
  obtain ⟨_, _, valid⟩ := of_bind_ok valid
  obtain ⟨_, _, valid⟩ := of_bind_ok valid
  obtain ⟨_, _, valid⟩ := of_bind_ok valid
  obtain ⟨_, _, valid⟩ := of_bind_ok valid
  obtain ⟨_, _, valid⟩ := of_bind_ok valid
  obtain ⟨_, retries, backoff⟩ := of_bind_ok valid
  exact ⟨by simpa using of_demand retries, by simpa using of_demand backoff⟩

end ServiceSection

namespace LengthSection

open Config (of_demand longestLength)

theorem bounds_of_validate {c : LengthSection} (valid : c.validate = .ok ()) :
    (0 < c.maxLength ∧ c.maxLength ≤ longestLength) ∧
      ∀ window, c.extensionWindow = some window → 0 < window ∧ window ≤ longestLength := by
  obtain ⟨_, positive, valid⟩ := of_bind_ok valid
  obtain ⟨_, short, valid⟩ := of_bind_ok valid
  obtain ⟨_, open_, narrow⟩ := of_bind_ok valid
  refine ⟨⟨?_, by simpa using of_demand short⟩, ?_⟩
  · exact Nat.pos_of_ne_zero (by simpa using of_demand positive)
  · intro window set
    have nonzero := of_demand open_
    have bounded := of_demand narrow
    rw [set] at nonzero bounded
    exact ⟨Nat.pos_of_ne_zero (by simpa using nonzero), by simpa using bounded⟩

end LengthSection

theorem FiltersSection.of_validate {c : FiltersSection} (valid : c.validate = .ok ()) :
    (∀ limit, c.lengthLimit = some limit → limit.validate = .ok ()) ∧
      ∀ service, c.service = some service → service.validate = .ok () := by
  unfold validate at valid
  constructor
  · intro limit given
    rw [given] at valid
    obtain ⟨_, checked, _⟩ := of_bind_ok valid
    exact checked
  · intro service given
    rw [given] at valid
    cases limit : c.lengthLimit with
    | none =>
      rw [limit] at valid
      exact valid
    | some l =>
      rw [limit] at valid
      obtain ⟨_, _, checked⟩ := of_bind_ok valid
      exact checked

theorem EnforcementSection.hookTimeout_of_validate {c : EnforcementSection}
    (valid : c.validate = .ok ()) : 100 ≤ c.hookTimeout ∧ c.hookTimeout ≤ 600000 := by
  unfold validate at valid
  split at valid
  · cases valid
  · simpa using Config.of_demand valid

namespace Config

theorem enforcement_of_validate {c : Config} (valid : c.validate = .ok ()) :
    c.enforcement.validate = .ok () := by
  obtain ⟨_, _, valid⟩ := of_bind_ok valid
  obtain ⟨_, valid, _⟩ := of_bind_ok valid
  exact valid

theorem validate_of_load {s : String} {c : Config} (loaded : load s = .ok c) :
    c.validate = .ok () := by
  unfold load at loaded
  split at loaded
  · cases loaded
  · obtain ⟨_, valid, same⟩ := of_bind_ok loaded
    cases same
    exact valid

theorem validate_of_loadFile {path : String} {file : Text.File} {c : Config}
    (loaded : loadFile path file = .ok c) : c.validate = .ok () := by
  cases file with
  | error fault => cases loaded
  | ok s => exact validate_of_load loaded

theorem filters_of_load {s : String} {c : Config} (loaded : load s = .ok c) :
    c.filters.validate = .ok () := by
  obtain ⟨_, _, valid⟩ := of_bind_ok (validate_of_load loaded)
  obtain ⟨_, _, valid⟩ := of_bind_ok valid
  exact valid

/-- The sections of a configuration that was loaded are accepted as they stand. -/
theorem service_of_load {s : String} {c : Config} (loaded : load s = .ok c)
    {service : ServiceSection} (given : c.filters.service = some service) :
    service.validate = .ok () :=
  (FiltersSection.of_validate (filters_of_load loaded)).2 service given

theorem lengthLimit_of_load {s : String} {c : Config} (loaded : load s = .ok c)
    {limit : LengthSection} (given : c.filters.lengthLimit = some limit) :
    limit.validate = .ok () :=
  (FiltersSection.of_validate (filters_of_load loaded)).1 limit given

end Config

end Admission
