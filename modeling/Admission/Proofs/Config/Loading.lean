import Admission.Proofs.Config.Validation
import Admission.Proofs.Yaml.Record
import Mathlib.Algebra.Group.Nat.Defs
/-!
What a configuration that was loaded has to do with its document. At each of its records every key
is a field and stands once, what is written is what is loaded, and what is left out has its default;
a stray key at any record spoils the whole document.
-/

namespace Admission

namespace Config

open Yaml

inductive Level where
  | root
  | enforcement
  | filters
  | lengthLimit
  | service
  deriving DecidableEq

def Level.fields : Level → List String
  | .root => ["version", "enforcement", "filters"]
  | .enforcement => ["enabled_filters", "exempt_projects", "hook_timeout_ms"]
  | .filters => ["max_reservation_length", "external_service"]
  | .lengthLimit =>
      ["max_reservation_length", "reservation_extension_window", "exempt_project_ids"]
  | .service =>
      ["endpoint", "check_create_url", "check_update_url", "on_end_url", "token", "token_env",
        "auth_header", "timeout_ms", "connect_timeout_ms", "max_retries", "backoff_initial_ms",
        "backoff_max_ms"]

/-! What the entries of each record state. -/

section Stating

variable (d : Document) (es : List (String × Node))

structure StatesLength (c : LengthSection) : Prop where
  declared : Declared Level.lengthLimit.fields (es.map Prod.fst)
  maxLength : Written d es "max_reservation_length" (Means.number (2 ^ 64)) c.maxLength
  extensionWindow : Given d es "reservation_extension_window"
    (Means.option (Means.number (2 ^ 64))) none c.extensionWindow
  exemptProjects : Given d es "exempt_project_ids" (Means.list Means.text) [] c.exemptProjects

structure StatesService (c : ServiceSection) : Prop where
  declared : Declared Level.service.fields (es.map Prod.fst)
  endpoint : Given d es "endpoint" (Means.option Means.text) none c.endpoint
  checkCreateUrl : Given d es "check_create_url" (Means.option Means.text) none c.checkCreateUrl
  checkUpdateUrl : Given d es "check_update_url" (Means.option Means.text) none c.checkUpdateUrl
  onEndUrl : Given d es "on_end_url" (Means.option Means.text) none c.onEndUrl
  token : Given d es "token" (Means.option Means.text) none c.token
  tokenEnv : Given d es "token_env" (Means.option Means.text) none c.tokenEnv
  authHeader : Given d es "auth_header"
    (Means.choice [("bearer", AuthHeader.bearer), ("x_auth_token", AuthHeader.xAuthToken)])
    .bearer c.authHeader
  timeout : Given d es "timeout_ms" (Means.number (2 ^ 64)) 5000 c.timeout
  connectTimeout : Given d es "connect_timeout_ms" (Means.number (2 ^ 64)) 2000 c.connectTimeout
  maxRetries : Given d es "max_retries" (Means.number (2 ^ 32)) 0 c.maxRetries
  backoffInitial : Given d es "backoff_initial_ms" (Means.number (2 ^ 64)) 100 c.backoffInitial
  backoffMax : Given d es "backoff_max_ms" (Means.number (2 ^ 64)) 2000 c.backoffMax

structure StatesFilters (c : FiltersSection) : Prop where
  declared : Declared Level.filters.fields (es.map Prod.fst)
  lengthLimit : Given d es "max_reservation_length" (Means.option (Means.record StatesLength)) none
    c.lengthLimit
  service : Given d es "external_service" (Means.option (Means.record StatesService)) none c.service

structure StatesEnforcement (c : EnforcementSection) : Prop where
  declared : Declared Level.enforcement.fields (es.map Prod.fst)
  enabledFilters : Given d es "enabled_filters" (Means.list Means.text) [] c.enabledFilters
  exemptProjects : Given d es "exempt_projects" (Means.list Means.text) [] c.exemptProjects
  hookTimeout : Given d es "hook_timeout_ms" (Means.number (2 ^ 64)) 30000 c.hookTimeout

structure States (c : Config) : Prop where
  declared : Declared Level.root.fields (es.map Prod.fst)
  version : Written d es "version" (Means.number (2 ^ 32)) c.version
  enforcement : Given d es "enforcement" (Means.record StatesEnforcement)
    { enabledFilters := [], exemptProjects := [], hookTimeout := 30000 } c.enforcement
  filters : Given d es "filters" (Means.record StatesFilters)
    { lengthLimit := none, service := none } c.filters

end Stating

/-! Every reading is a record of such entries. -/

theorem accepts_length : Accepts lengthReading.yaml (Means.record StatesLength) := by
  apply accepts_record (by decide)
  intro d es c
  have number := (accepts_natural (2 ^ 64)).eq
  have window := (accepts_optional (accepts_natural (2 ^ 64))).eq
  have texts := (accepts_list accepts_text).eq
  constructor
  · rintro ⟨declared, _, maxLength, _, extensionWindow, _, exemptProjects, rfl⟩
    exact ⟨declared, number ▸ maxLength, window ▸ extensionWindow, texts ▸ exemptProjects⟩
  · rintro ⟨declared, maxLength, extensionWindow, exemptProjects⟩
    exact ⟨declared, _, number ▸ maxLength, _, window ▸ extensionWindow, _,
      texts ▸ exemptProjects, rfl⟩

theorem accepts_service : Accepts serviceReading.yaml (Means.record StatesService) := by
  apply accepts_record (by decide)
  intro d es c
  have text := (accepts_optional accepts_text).eq
  have header := (accepts_choice
    [("bearer", AuthHeader.bearer), ("x_auth_token", AuthHeader.xAuthToken)]).eq
  have number := (accepts_natural (2 ^ 64)).eq
  have small := (accepts_natural (2 ^ 32)).eq
  constructor
  · rintro ⟨declared, _, endpoint, _, create, _, update, _, onEnd, _, token, _, tokenEnv, _,
      authHeader, _, timeout, _, connect, _, retries, _, initial, _, longest, rfl⟩
    exact ⟨declared, text ▸ endpoint, text ▸ create, text ▸ update, text ▸ onEnd, text ▸ token,
      text ▸ tokenEnv, header ▸ authHeader, number ▸ timeout, number ▸ connect, small ▸ retries,
      number ▸ initial, number ▸ longest⟩
  · rintro ⟨declared, endpoint, create, update, onEnd, token, tokenEnv, authHeader, timeout,
      connect, retries, initial, longest⟩
    exact ⟨declared, _, text ▸ endpoint, _, text ▸ create, _, text ▸ update, _, text ▸ onEnd, _,
      text ▸ token, _, text ▸ tokenEnv, _, header ▸ authHeader, _, number ▸ timeout, _,
      number ▸ connect, _, small ▸ retries, _, number ▸ initial, _, number ▸ longest, rfl⟩

theorem accepts_filters : Accepts filtersReading.yaml (Means.record StatesFilters) := by
  apply accepts_record (by decide)
  intro d es c
  have limit := (accepts_optional accepts_length).eq
  have service := (accepts_optional accepts_service).eq
  constructor
  · rintro ⟨declared, _, first, _, second, rfl⟩
    exact ⟨declared, limit ▸ first, service ▸ second⟩
  · rintro ⟨declared, first, second⟩
    exact ⟨declared, _, limit ▸ first, _, service ▸ second, rfl⟩

theorem accepts_enforcement : Accepts enforcementReading.yaml (Means.record StatesEnforcement) := by
  apply accepts_record (by decide)
  intro d es c
  have texts := (accepts_list accepts_text).eq
  have number := (accepts_natural (2 ^ 64)).eq
  constructor
  · rintro ⟨declared, _, enabled, _, exempt, _, timeout, rfl⟩
    exact ⟨declared, texts ▸ enabled, texts ▸ exempt, number ▸ timeout⟩
  · rintro ⟨declared, enabled, exempt, timeout⟩
    exact ⟨declared, _, texts ▸ enabled, _, texts ▸ exempt, _, number ▸ timeout, rfl⟩

theorem accepts_config : Accepts reading.yaml (Means.record States) := by
  apply accepts_record (by decide)
  intro d es c
  have small := (accepts_natural (2 ^ 32)).eq
  have enforcement := accepts_enforcement.eq
  have filters := accepts_filters.eq
  constructor
  · rintro ⟨declared, _, version, _, first, _, second, rfl⟩
    exact ⟨declared, small ▸ version, enforcement ▸ first, filters ▸ second⟩
  · rintro ⟨declared, version, first, second⟩
    exact ⟨declared, _, small ▸ version, _, enforcement ▸ first, _, filters ▸ second, rfl⟩

/-! Where the records stand in a document. -/

inductive Stands (d : Document) : Level → Node → Prop
  | root : Stands d .root d.root
  | enforcement {n m : Node} : Stands d .root n → Entry d n "enforcement" m →
      Stands d .enforcement m
  | filters {n m : Node} : Stands d .root n → Entry d n "filters" m → Stands d .filters m
  | lengthLimit {n m : Node} : Stands d .filters n → Entry d n "max_reservation_length" m →
      Stands d .lengthLimit m
  | service {n m : Node} : Stands d .filters n → Entry d n "external_service" m →
      Stands d .service m

/-- The node is taken for the record of its level. -/
def Taken (d : Document) (n : Node) : Level → Prop
  | .root => ∃ c, Means.record States d n c
  | .enforcement => ∃ c, Means.record StatesEnforcement d n c
  | .filters => ∃ c, Means.record StatesFilters d n c
  | .lengthLimit => ∃ c, Means.option (Means.record StatesLength) d n c
  | .service => ∃ c, Means.option (Means.record StatesService) d n c

section Standing

variable {d : Document} {n : Node} {level : Level}

theorem taken_of_stands (accepted : Taken d d.root .root) (stands : Stands d level n) :
    Taken d n level := by
  induction stands with
  | root => exact accepted
  | enforcement _ entry ih =>
    obtain ⟨c, es, fields, states⟩ := ih
    exact ⟨_, states.enforcement.of_mem states.declared.once (fields.mem entry)⟩
  | filters _ entry ih =>
    obtain ⟨c, es, fields, states⟩ := ih
    exact ⟨_, states.filters.of_mem states.declared.once (fields.mem entry)⟩
  | lengthLimit _ entry ih =>
    obtain ⟨c, es, fields, states⟩ := ih
    exact ⟨_, states.lengthLimit.of_mem states.declared.once (fields.mem entry)⟩
  | service _ entry ih =>
    obtain ⟨c, es, fields, states⟩ := ih
    exact ⟨_, states.service.of_mem states.declared.once (fields.mem entry)⟩

theorem not_stray_of_option {α : Type} {states : Document → List (String × Node) → α → Prop}
    {names : List String} {entries : List (Node × Node)} {c : Option α}
    (declared : ∀ es c, states d es c → Declared names (es.map Prod.fst))
    (taken : Means.option (Means.record states) d n c) (stand : Entries d n entries) :
    ¬ Stray d names entries := by
  rcases taken with ⟨⟨tag, cs, node, _⟩, _⟩ | ⟨_, x, ⟨es, fields, states⟩, _⟩
  · rcases stand with ⟨tag', node'⟩ | ⟨_, rfl⟩
    · cases node.symm.trans node'
    · exact not_stray_nil
  · exact fields.not_stray stand (declared es x states)

theorem not_stray_of_taken {entries : List (Node × Node)} (taken : Taken d n level)
    (stand : Entries d n entries) : ¬ Stray d level.fields entries := by
  cases level with
  | root =>
    obtain ⟨c, es, fields, states⟩ := taken
    exact fields.not_stray stand states.declared
  | enforcement =>
    obtain ⟨c, es, fields, states⟩ := taken
    exact fields.not_stray stand states.declared
  | filters =>
    obtain ⟨c, es, fields, states⟩ := taken
    exact fields.not_stray stand states.declared
  | lengthLimit =>
    obtain ⟨c, taken⟩ := taken
    exact not_stray_of_option (fun _ _ states => states.declared) taken stand
  | service =>
    obtain ⟨c, taken⟩ := taken
    exact not_stray_of_option (fun _ _ states => states.declared) taken stand

end Standing

theorem checked_ok_iff {c c' : Config} :
    c.checked = .ok c' ↔ c.validate = .ok () ∧ c = c' := by
  unfold checked
  cases c.validate <;> simp [bind, Except.bind]

section Load

variable {s : String} {d : Document} (parsed : Document.parse? s.toList = some d)

include parsed

theorem load_of_states {c : Config} (states : Means.record States d d.root c) :
    load s = c.checked := by
  have read : Yaml.read? reading.yaml s = some c := by
    rw [Yaml.read?, parsed]
    exact (accepts_config d d.root c).mpr states
  rw [load, read]

theorem states_of_load {c : Config} (loaded : load s = .ok c) :
    Means.record States d d.root c := by
  unfold load at loaded
  split at loaded
  · cases loaded
  · rename_i c' read
    obtain ⟨_, rfl⟩ := checked_ok_iff.mp loaded
    rw [Yaml.read?, parsed] at read
    exact (accepts_config d d.root c').mp read

theorem load_stray {level : Level} {n : Node} {entries : List (Node × Node)}
    (stands : Stands d level n) (stand : Entries d n entries)
    (stray : Stray d level.fields entries) : load s = .error .malformed := by
  cases read : Yaml.read? reading.yaml s with
  | none => rw [load, read]
  | some c =>
    rw [Yaml.read?, parsed] at read
    have accepted : Taken d d.root .root := ⟨c, (accepts_config d d.root c).mp read⟩
    exact absurd stray (not_stray_of_taken (taken_of_stands accepted stands) stand)

/-- A configuration is loaded exactly if it is what its document states and is accepted. Where a
key of any record is stray the document is malformed, and where the configuration is not accepted
the broken rule is reported; both are errors of the configuration. -/
theorem load_strict :
    (∀ c, load s = .ok c ↔ Means.record States d d.root c ∧ c.validate = .ok ()) ∧
    (∀ level n entries, Stands d level n → Entries d n entries → Stray d level.fields entries →
      (load s).mapError Fault.error = .error (.configuration Fault.malformed.reason)) ∧
    (∀ c fault, Means.record States d d.root c → c.validate = .error fault →
      (load s).mapError Fault.error = .error (.configuration fault.reason)) := by
  refine ⟨?loaded, ?stray, ?broken⟩
  case loaded =>
    intro c
    constructor
    · intro loaded
      exact ⟨states_of_load parsed loaded, validate_of_load loaded⟩
    · rintro ⟨states, valid⟩
      rw [load_of_states parsed states]
      exact checked_ok_iff.mpr ⟨valid, rfl⟩
  case stray =>
    intro level n entries stands stand stray
    rw [load_stray parsed stands stand stray]
    rfl
  case broken =>
    intro c fault states broken
    rw [load_of_states parsed states, checked, broken]
    rfl

end Load

/-! Sections that were loaded. -/

theorem exists_states_service {s : String} {c : Config} (loaded : load s = .ok c)
    {service : ServiceSection} (given : c.filters.service = some service) :
    ∃ d es, StatesService d es service := by
  cases parsed : Document.parse? s.toList with
  | none => simp [load, Yaml.read?, parsed] at loaded
  | some d =>
    obtain ⟨_, _, root⟩ := states_of_load parsed loaded
    rcases root.filters with ⟨_, _, _, _, filters⟩ | ⟨_, absent⟩
    · rcases filters.service with ⟨_, _, taken⟩ | ⟨_, absent⟩
      · rcases taken with ⟨_, absent⟩ | ⟨_, service', ⟨es, _, states⟩, same⟩
        · cases absent.symm.trans given
        · cases same.symm.trans given
          exact ⟨d, es, states⟩
      · cases absent.symm.trans given
    · rw [absent] at given
      cases given

theorem lt_of_given {d : Document} {es : List (String × Node)} {name : String}
    {limit default v : Nat} (given : Given d es name (Means.number limit) default v)
    (small : default < limit) : v < limit := by
  rcases given with ⟨_, _, _, _, _, _, _, _, below⟩ | ⟨_, rfl⟩
  · exact below
  · exact small

theorem backoff_of_load {s : String} {c : Config} (loaded : load s = .ok c)
    {service : ServiceSection} (given : c.filters.service = some service) :
    service.backoffInitial < 2 ^ 64 ∧ service.backoffMax < 2 ^ 64 := by
  obtain ⟨d, es, states⟩ := exists_states_service loaded given
  exact ⟨lt_of_given states.backoffInitial (by decide), lt_of_given states.backoffMax (by decide)⟩

/-- The keys of the record inside the second section of a document, behind the names of both. -/
def innermost (d : Document) : Option (Option String × Option String × List String) :=
  match d.root with
  | .mapping _ [_, (outer, .mapping _ [(inner, .mapping _ entries)])] =>
      some (Reader.text d outer, Reader.text d inner, keys d entries)
  | _ => none

-- A section that is loaded, and the same section with a misspelt key behind it.
theorem load_strict_misspelt :
    let text := "version: 1\nfilters:\n  max_reservation_length:\n" ++
      "    max_reservation_length: 60\n    exempt_project_ids: [ops, dev]\n"
    let misspelt := text ++ "    reservation_extension_windw: 60\n"
    let c : Config :=
      { version := 1
        filters := { lengthLimit := some { maxLength := 60, exemptProjects := ["ops", "dev"] } } }
    (∃ d, Document.parse? text.toList = some d ∧ Means.record States d d.root c ∧
      c.validate = .ok ()) ∧
    ∃ d, Document.parse? misspelt.toList = some d ∧
      (∃ n entries, Stands d .lengthLimit n ∧ Entries d n entries ∧
        Stray d Level.lengthLimit.fields entries) ∧
      (load misspelt).mapError Fault.error = .error (.configuration "invalid yaml") := by
  intro text misspelt c
  constructor
  · have loaded : load text = .ok c := by decide +kernel
    cases parsed : Document.parse? text.toList with
    | none => simp [load, Yaml.read?, parsed] at loaded
    | some d => exact ⟨d, rfl, ((load_strict parsed).1 c).mp loaded⟩
  · have shape : (Document.parse? misspelt.toList).bind innermost =
        some (some "filters", some "max_reservation_length",
          ["max_reservation_length", "exempt_project_ids", "reservation_extension_windw"]) := by
      decide +kernel
    cases parsed : Document.parse? misspelt.toList with
    | none =>
      rw [parsed] at shape
      cases shape
    | some d =>
      rw [parsed, Option.bind_some, innermost] at shape
      split at shape
      · rename_i tag version outer tag' inner tag'' entries root
        obtain ⟨first, second, listed⟩ := by simpa using shape
        have filters : Stands d .filters (.mapping tag' [(inner, .mapping tag'' entries)]) :=
          .filters .root ⟨_, outer, .inl ⟨tag, congrArg d.resolve root⟩, by simp,
            (accepts_text _ _ _).mp first⟩
        have stands : Stands d .lengthLimit (.mapping tag'' entries) :=
          .lengthLimit filters ⟨_, inner, .inl ⟨tag', rfl⟩, by simp,
            (accepts_text _ _ _).mp second⟩
        have typo : "reservation_extension_windw" ∈ keys d entries := by
          rw [listed]
          decide
        have stray : Stray d Level.lengthLimit.fields entries := .of_key typo (by decide)
        have stand : Entries d (.mapping tag'' entries) entries := .inl ⟨tag'', rfl⟩
        exact ⟨d, rfl, ⟨_, entries, stands, stand, stray⟩,
          (load_strict parsed).2.1 _ _ entries stands stand stray⟩
      · cases shape

end Config

end Admission
