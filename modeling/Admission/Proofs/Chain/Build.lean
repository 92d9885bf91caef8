import Admission.Chain.Build
import Admission.Proofs.Delegate.Attempt
import Admission.Proofs.Delegate.Build
import Admission.Proofs.Table
/-!
What can keep a chain from being built from a configuration that was loaded. A name that is not
known and a section that is absent are found out only then; of the sections that are there, only
an endpoint that dangles is.
-/

namespace Admission

variable {σ : Type}

namespace Registry

theorem builtin_eq : (builtin : Registry σ) =
    [(Delegate.filterName, delegate), (LengthLimit.filterName, lengthLimit)] := rfl

theorem build_pair (delegate lengthLimit : Factory σ) (name : String) (sections : FiltersSection) :
    build [(Delegate.filterName, delegate), (LengthLimit.filterName, lengthLimit)] name sections =
      if name = Delegate.filterName then delegate sections
      else if name = LengthLimit.filterName then lengthLimit sections
      else .error (unknown name
        [(Delegate.filterName, delegate), (LengthLimit.filterName, lengthLimit)]) := by
  by_cases service : name = Delegate.filterName
  · subst service
    rfl
  by_cases length : name = LengthLimit.filterName
  · subst length
    rfl
  rw [if_neg service, if_neg length]
  cases first : Text.order name Delegate.filterName with
  | lt => simp only [build, Table.find?, first]
  | eq => exact absurd (Std.LawfulEqCmp.eq_of_compare first) service
  | gt =>
    cases second : Text.order name LengthLimit.filterName with
    | lt => simp only [build, Table.find?, first, second]
    | eq => exact absurd (Std.LawfulEqCmp.eq_of_compare second) length
    | gt => simp only [build, Table.find?, first, second]

theorem unknown_builtin (name : String) : unknown name (builtin : Registry σ) =
    .configuration ("enabled filter " ++ name ++
      " has no implementation (known: ExternalServiceFilter, MaxReservationLengthFilter)") := by
  have known : ", ".intercalate (names (builtin : Registry σ)) =
      "ExternalServiceFilter, MaxReservationLengthFilter" := by
    rw [names, builtin_eq]
    simp only [Table.keys, List.map_cons, List.map_nil]
    decide
  rw [unknown, known, String.append_assoc, String.append_assoc]
  rfl

def delegateWith (send : Delegate.Sending σ) : Factory σ := fun sections =>
  match sections.service with
  | none => .error (missingSection Delegate.filterName "external_service")
  | some c => (Delegate.ofSection c true).map (Delegate.filterWith send)

/-- The filters of this library, with another way to make attempts. -/
def builtinWith (send : Delegate.Sending σ) : Registry σ :=
  builtin.insert Text.order Delegate.filterName (delegateWith send)

theorem builtinWith_eq (send : Delegate.Sending σ) : builtinWith send =
    [(Delegate.filterName, delegateWith send), (LengthLimit.filterName, lengthLimit)] := rfl

theorem builtinWith_sendAttempt : (builtinWith Delegate.sendAttempt : Registry σ) = builtin := rfl

/-- What is built for a name, and from which section. -/
inductive Built (send : Delegate.Sending σ) (sections : FiltersSection) (name : String) :
    Filter σ → Prop where
  | delegate {service : ServiceSection} {d : Delegate} (named : name = Delegate.filterName)
      (given : sections.service = some service) (made : Delegate.ofSection service true = .ok d) :
      Built send sections name (d.filterWith send)
  | lengthLimit {c : LengthSection} (named : name = LengthLimit.filterName)
      (given : sections.lengthLimit = some c) : Built send sections name
        (LengthLimit.ofSeconds c.maxLength c.extensionWindow c.exemptProjects).filter

theorem built_of_build {send : Delegate.Sending σ} {sections : FiltersSection} {name : String}
    {f : Filter σ} (built : (builtinWith send).build name sections = .ok f) :
    Built send sections name f := by
  rw [builtinWith_eq, build_pair] at built
  split at built
  case isTrue named =>
    unfold delegateWith at built
    cases given : sections.service with
    | none =>
      rw [given] at built
      cases built
    | some service =>
      rw [given] at built
      obtain ⟨d, made, rfl⟩ := of_map_ok built
      exact .delegate named given made
  case isFalse =>
    split at built
    case isTrue named =>
      unfold lengthLimit at built
      cases given : sections.lengthLimit with
      | none =>
        rw [given] at built
        cases built
      | some c =>
        rw [given] at built
        cases built
        exact .lengthLimit named given
    case isFalse => cases built

end Registry

namespace Chain

open Registry (builtin)

/-- What keeps an enabled filter from being built, and how it is reported. -/
inductive Obstacle (sections : FiltersSection) (name : String) (error : Error) : Prop where
  | unknown (other : name ≠ "ExternalServiceFilter" ∧ name ≠ "MaxReservationLengthFilter")
      (reported : error = .configuration ("enabled filter " ++ name ++
        " has no implementation (known: ExternalServiceFilter, MaxReservationLengthFilter)"))
  | noLengthSection (enabled : name = "MaxReservationLengthFilter")
      (absent : sections.lengthLimit = none)
      (reported : error = .configuration
        "MaxReservationLengthFilter is enabled but filters.max_reservation_length is not configured")
  | noServiceSection (enabled : name = "ExternalServiceFilter") (absent : sections.service = none)
      (reported : error = .configuration
        "ExternalServiceFilter is enabled but filters.external_service is not configured")
  | unplaced {c : ServiceSection} (enabled : name = "ExternalServiceFilter")
      (given : sections.service = some c) (stuck : Delegate.Unplaced c error)

theorem build_error_iff {sections : FiltersSection}
    (valid : ∀ c, sections.service = some c → c.validate = .ok ()) {name : String} {error : Error} :
    (builtin : Registry σ).build name sections = .error error ↔ Obstacle sections name error := by
  have other (unknown : name ≠ Delegate.filterName ∧ name ≠ LengthLimit.filterName) :
      (builtin : Registry σ).build name sections = .error (.configuration
        ("enabled filter " ++ name ++
          " has no implementation (known: ExternalServiceFilter, MaxReservationLengthFilter)")) := by
    rw [Registry.builtin_eq, Registry.build_pair, if_neg unknown.1, if_neg unknown.2,
      ← Registry.builtin_eq, Registry.unknown_builtin]
  have service : (builtin : Registry σ).build Delegate.filterName sections =
      Registry.delegate sections := by
    rw [Registry.builtin_eq, Registry.build_pair, if_pos rfl]
  have length : (builtin : Registry σ).build LengthLimit.filterName sections =
      Registry.lengthLimit sections := by
    rw [Registry.builtin_eq, Registry.build_pair, if_neg (by decide), if_pos rfl]
  have made (c : ServiceSection) (given : sections.service = some c) :
      Registry.delegate (σ := σ) sections = .error error ↔ Delegate.Unplaced c error := by
    rw [Registry.delegate, given]
    exact map_eq_error_iff.trans (Delegate.ofSection_error_iff (valid c given) true)
  constructor
  case mp =>
    intro failed
    by_cases first : name = Delegate.filterName
    · subst first
      rw [service] at failed
      cases given : sections.service with
      | none =>
        rw [Registry.delegate, given] at failed
        cases failed
        exact .noServiceSection rfl given rfl
      | some c => exact .unplaced rfl given ((made c given).mp failed)
    by_cases second : name = LengthLimit.filterName
    · subst second
      rw [length, Registry.lengthLimit] at failed
      cases given : sections.lengthLimit with
      | none =>
        rw [given] at failed
        cases failed
        exact .noLengthSection rfl given rfl
      | some c =>
        rw [given] at failed
        cases failed
    · rw [other ⟨first, second⟩] at failed
      cases failed
      exact .unknown ⟨first, second⟩ rfl
  case mpr =>
    rintro (⟨unknown, rfl⟩ | ⟨rfl, absent, rfl⟩ | ⟨rfl, absent, rfl⟩ | ⟨rfl, given, stuck⟩)
    · exact other unknown
    · refine length.trans ?_
      rw [Registry.lengthLimit, absent]
      rfl
    · refine service.trans ?_
      rw [Registry.delegate, absent]
      rfl
    · exact service.trans ((made _ given).mpr stuck)

/-- The first name that cannot be built is what a build fails with. -/
theorem buildAll_error_iff {r : Registry σ} {sections : FiltersSection} {names : List String}
    {error : Error} :
    buildAll r sections names = .error error ↔
      ∃ before name after, names = before ++ name :: after ∧
        (∀ other ∈ before, ∃ f, r.build other sections = .ok f) ∧
        r.build name sections = .error error := by
  induction names with
  | nil => simp [buildAll]
  | cons head rest ih =>
    cases built : r.build head sections with
    | error e =>
      constructor
      · intro failed
        simp only [buildAll, built] at failed
        cases failed
        exact ⟨[], head, rest, rfl, by simp, built⟩
      · rintro ⟨before, name, after, same, front, failed⟩
        cases before with
        | nil =>
          cases same
          simp only [buildAll, failed]
          rfl
        | cons other before =>
          cases same
          obtain ⟨f, ok⟩ := front head (by simp)
          cases built.symm.trans ok
    | ok f =>
      have later : buildAll r sections (head :: rest) = .error error ↔
          buildAll r sections rest = .error error := by
        simp only [buildAll, built]
        cases buildAll r sections rest <;> simp [bind, Except.bind]
      rw [later, ih]
      constructor
      · rintro ⟨before, name, after, rfl, front, failed⟩
        refine ⟨head :: before, name, after, rfl, ?_, failed⟩
        intro other member
        rcases List.mem_cons.mp member with same | member
        · exact same ▸ ⟨f, built⟩
        · exact front other member
      · rintro ⟨before, name, after, same, front, failed⟩
        cases before with
        | nil =>
          cases same
          cases built.symm.trans failed
        | cons other before =>
          cases same
          exact ⟨before, name, after, rfl, fun o member => front o (by simp [member]), failed⟩

/-- One filter for each name, and no others. -/
theorem of_buildAll {r : Registry σ} {sections : FiltersSection} {names : List String}
    {filters : List (Filter σ)} (built : buildAll r sections names = .ok filters) :
    (∀ name ∈ names, ∃ f, r.build name sections = .ok f) ∧
      ∀ f ∈ filters, ∃ name, r.build name sections = .ok f := by
  induction names generalizing filters with
  | nil =>
    cases built
    simp
  | cons name rest ih =>
    obtain ⟨f, first, built⟩ := of_bind_ok built
    obtain ⟨fs, later, same⟩ := of_bind_ok built
    cases same
    obtain ⟨names, filters⟩ := ih later
    exact ⟨List.forall_mem_cons.mpr ⟨⟨f, first⟩, names⟩,
      List.forall_mem_cons.mpr ⟨⟨name, first⟩, filters⟩⟩

theorem of_ofConfig {c : Config} {r : Registry σ} {chain : Chain σ} {events : List Event}
    (built : ofConfig c r = .ok (chain, events)) :
    (∀ name ∈ c.enforcement.enabledFilters, ∃ f, r.build name c.filters = .ok f) ∧
      ∀ f ∈ chain.filters, ∃ name, r.build name c.filters = .ok f := by
  obtain ⟨filters, each, same⟩ := of_bind_ok built
  cases same
  exact of_buildAll each

/-- A chain is built from every configuration that was loaded, unless there is an obstacle to one
of its enabled names, and the first of these obstacles is reported. -/
theorem ofConfig_error_iff {s : String} {c : Config} (loaded : Config.load s = .ok c)
    (error : Error) :
    (ofConfig c builtin : Except Error (Chain σ × List Event)) = .error error ↔
      ∃ before name after, c.enforcement.enabledFilters = before ++ name :: after ∧
        (∀ other ∈ before, ¬ ∃ e, Obstacle c.filters other e) ∧
        Obstacle c.filters name error := by
  have valid (service) (given : c.filters.service = some service) :=
    Config.service_of_load loaded given
  have stops (other : String) (e : Error) :
      (builtin : Registry σ).build other c.filters = .error e ↔ Obstacle c.filters other e :=
    build_error_iff valid
  have free (other : String) : (∃ f, (builtin : Registry σ).build other c.filters = .ok f) ↔
      ¬ ∃ e, Obstacle c.filters other e := by
    simp only [← stops]
    cases (builtin : Registry σ).build other c.filters <;> simp
  have built : (ofConfig c builtin : Except Error (Chain σ × List Event)) = .error error ↔
      buildAll (builtin : Registry σ) c.filters c.enforcement.enabledFilters = .error error := by
    unfold ofConfig
    cases buildAll (builtin : Registry σ) c.filters c.enforcement.enabledFilters <;>
      simp [bind, Except.bind]
  rw [built, buildAll_error_iff]
  simp only [free, stops]

-- The blank behind the endpoint becomes the end of a host name.
theorem ofConfig_error_blank :
    let text := "version: 1\nenforcement:\n  enabled_filters: [ExternalServiceFilter]\n" ++
      "filters:\n  external_service:\n    endpoint: \"http://h \"\n    token: t\n"
    let c : Config :=
      { version := 1
        enforcement := { enabledFilters := ["ExternalServiceFilter"] }
        filters := { service := some { endpoint := some "http://h ", token := some "t" } } }
    Config.load text = .ok c ∧
      (ofConfig c builtin : Except Error (Chain Unit × List Event)) =
        .error (.configuration ("invalid external service url http://h /v1/check-create: " ++
          "invalid international domain name")) := by
  intro text c
  have loaded : Config.load text = .ok c := by decide +kernel
  have dangling : Delegate.Dangling "http://h " := by decide +kernel
  have refused : Url.parse "http://h /v1/check-create" = .error .invalidDomain := by
    decide +kernel
  refine ⟨loaded, (ofConfig_error_iff loaded _).mpr
    ⟨[], "ExternalServiceFilter", [], rfl, by simp, .unplaced rfl rfl ?_⟩⟩
  exact ⟨"http://h ", .create, .invalidDomain, rfl, dangling, rfl, refused, rfl⟩

end Chain

end Admission
