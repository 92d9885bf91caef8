import Mathlib.Data.List.Forall2
import Admission.Proofs.Chain.Build
import Admission.Proofs.Registry
/-!
Chains from registries of any history. A chain is built whole or not at all: the factories of the
enabled names run in the order of the names, up to the first that fails, and what they give are the
filters of the chain.
-/

namespace Admission.Chain

variable {σ : Type} {r : Registry σ} {sections : FiltersSection} {names : List String}

theorem buildAll_ok_iff {filters : List (Filter σ)} :
    buildAll r sections names = .ok filters ↔
      List.Forall₂ (fun name f => r.build name sections = .ok f) names filters := by
  induction names generalizing filters with
  | nil => cases filters <;> simp [buildAll]
  | cons name rest ih =>
    constructor
    · intro built
      obtain ⟨f, first, built⟩ := of_bind_ok built
      obtain ⟨fs, later, same⟩ := of_bind_ok built
      cases same
      exact .cons first (ih.mp later)
    · intro each
      cases each with
      | cons first later =>
        rw [buildAll, first, ih.mpr later]
        rfl

theorem exists_buildAll_iff :
    (∃ filters, buildAll r sections names = .ok filters) ↔
      ∀ name ∈ names, ∃ f, r.build name sections = .ok f := by
  constructor
  · rintro ⟨filters, built⟩
    exact (of_buildAll built).1
  · intro each
    induction names with
    | nil => exact ⟨[], rfl⟩
    | cons name rest ih =>
      obtain ⟨f, first⟩ := each name (by simp)
      obtain ⟨fs, later⟩ := ih fun other member => each other (by simp [member])
      exact ⟨f :: fs, buildAll_ok_iff.mpr (.cons first (buildAll_ok_iff.mp later))⟩

/-! Which factories run. -/

/-- The same build, watched: its result and the names whose factories ran, in their order. -/
def buildWatched (r : Registry σ) (sections : FiltersSection) (names : List String) :
    Except Error (List (Filter σ)) × List String :=
  (names.mapM (r.watched sections)).run.run []

theorem run_bind_watched {α β : Type} (x : ExceptT Error (StateM (List String)) α)
    (f : α → ExceptT Error (StateM (List String)) β) (ran : List String) :
    (x >>= f).run.run ran =
      match x.run.run ran with
      | (.ok a, ran) => (f a).run.run ran
      | (.error e, ran) => (.error e, ran) := by
  rw [ExceptT.run_bind, StateT.run_bind]
  cases x.run.run ran with
  | mk result ran => cases result <;> rfl

/-- A build that is watched is the same build. -/
theorem fst_buildWatched : (buildWatched r sections names).1 = buildAll r sections names := by
  unfold buildWatched
  generalize ([] : List String) = ran
  induction names generalizing ran with
  | nil => rfl
  | cons name rest ih =>
    rw [List.mapM_cons, run_bind_watched, Registry.run_watched, buildAll]
    cases r.build name sections with
    | error e => rfl
    | ok f =>
      simp only [run_bind_watched, ← ih (ran ++ if name ∈ r.names then [name] else [])]
      cases (rest.mapM (r.watched sections)).run.run _ with
      | mk result ran => cases result <;> rfl

section Watched

variable {history : List (String × Factory σ)} (reached : Registry.Reached history r)

include reached

theorem run_watched_ok {name : String} {f : Filter σ} (built : r.build name sections = .ok f)
    (ran : List String) :
    (r.watched sections name).run.run ran = (.ok f, ran ++ [name]) := by
  obtain ⟨factory, entry, _⟩ := reached.of_build built
  rw [Registry.run_watched, built, if_pos ((reached.mem_names name).mpr ⟨factory, entry⟩)]

theorem run_mapM_watched {filters : List (Filter σ)}
    (each : List.Forall₂ (fun name f => r.build name sections = .ok f) names filters)
    (ran : List String) :
    (names.mapM (r.watched sections)).run.run ran = (.ok filters, ran ++ names) := by
  induction each generalizing ran with
  | nil =>
    rw [List.append_nil]
    rfl
  | cons first _ ih =>
    rw [List.mapM_cons, run_bind_watched, run_watched_ok reached first]
    simp only [run_bind_watched, ih, List.append_assoc, List.singleton_append]
    rfl

/-- Nothing behind the first failing name is run. -/
theorem run_mapM_watched_error {before : List String} {name : String} {error : Error}
    (front : ∀ other ∈ before, ∃ f, r.build other sections = .ok f)
    (failed : r.build name sections = .error error) (after ran : List String) :
    ((before ++ name :: after).mapM (r.watched sections)).run.run ran =
      (.error error, ran ++ before ++ if name ∈ r.names then [name] else []) := by
  induction before generalizing ran with
  | nil =>
    rw [List.nil_append, List.mapM_cons, run_bind_watched, Registry.run_watched, failed,
      List.append_nil]
  | cons other before ih =>
    obtain ⟨f, first⟩ := front other (by simp)
    have later := ih (fun o member => front o (by simp [member])) (ran ++ [other])
    rw [List.cons_append, List.mapM_cons, run_bind_watched, run_watched_ok reached first]
    simp only [run_bind_watched, later, List.append_assoc, List.cons_append, List.nil_append]

end Watched

/-! What a build comes to. -/

/-- The section of a filter of this library is there, and the filter is not enabled. -/
def Idle (c : Config) (name : String) : Prop :=
  (name = LengthLimit.filterName ∧ c.filters.lengthLimit.isSome ∨
    name = Delegate.filterName ∧ c.filters.service.isSome) ∧
  name ∉ c.enforcement.enabledFilters

instance (c : Config) (name : String) : Decidable (Idle c name) :=
  inferInstanceAs (Decidable (_ ∧ _))

/-- A chain that is there: a filter for each enabled name, in their order, from one run of each
factory, the exempt projects that are configured, and a warning for each idle section. -/
structure Assembled (c : Config) (r : Registry σ) (chain : Chain σ) (events : List Event) :
    Prop where
  filters : List.Forall₂ (fun name f => r.build name c.filters = .ok f)
    c.enforcement.enabledFilters chain.filters
  ran : buildWatched r c.filters c.enforcement.enabledFilters =
    (.ok chain.filters, c.enforcement.enabledFilters)
  exempt : ∀ ctx, chain.isExempt ctx = true ↔ ctx.projectId ∈ c.enforcement.exemptProjects
  warned : ∀ name, events.count (.sectionUnused name) = if Idle c name then 1 else 0

/-- A build that failed: at the first name that cannot be built, with its error, and with no
factory run behind it. -/
def Abandoned (c : Config) (r : Registry σ) (error : Error) : Prop :=
  ∃ before name after, c.enforcement.enabledFilters = before ++ name :: after ∧
    (∀ other ∈ before, ∃ f, r.build other c.filters = .ok f) ∧
    r.build name c.filters = .error error ∧
    buildWatched r c.filters c.enforcement.enabledFilters =
      (.error error, before ++ if name ∈ r.names then [name] else [])

theorem count_warning (shown : Prop) [Decidable shown] (name other : String) :
    (if shown then [Event.sectionUnused other] else []).count (.sectionUnused name) =
      if name = other ∧ shown then 1 else 0 := by
  by_cases holds : shown
  · rw [if_pos holds, List.count_singleton]
    by_cases same : name = other
    · simp [same, holds]
    · simp [same, Ne.symm same]
  · simp [holds]

theorem count_unused (c : Config) (name : String) :
    (unused c).count (.sectionUnused name) = if Idle c name then 1 else 0 := by
  have apart : LengthLimit.filterName ≠ Delegate.filterName := by decide
  rw [unused, List.count_append, count_warning, count_warning]
  unfold Idle
  by_cases first : name = LengthLimit.filterName
  · subst first
    simp [apart]
  by_cases second : name = Delegate.filterName
  · subst second
    simp [first]
  · simp [first, second]

theorem ofConfig_ok_iff {c : Config} {chain : Chain σ} {events : List Event} :
    ofConfig c r = .ok (chain, events) ↔
      ∃ filters, buildAll r c.filters c.enforcement.enabledFilters = .ok filters ∧
        chain = { filters := filters
                  exemptProjects := c.enforcement.exemptProjects
                  hookTimeout := Time.Delay.ofMillis c.enforcement.hookTimeout } ∧
        events = unused c ++ [builtEvent c filters] := by
  constructor
  · intro built
    obtain ⟨filters, each, same⟩ := of_bind_ok built
    cases same
    exact ⟨filters, each, rfl, rfl⟩
  · rintro ⟨filters, each, rfl, rfl⟩
    rw [ofConfig, each]
    rfl

theorem ofConfig_error {c : Config} {error : Error} :
    ofConfig c r = .error error ↔
      buildAll r c.filters c.enforcement.enabledFilters = .error error := by
  unfold ofConfig
  cases buildAll r c.filters c.enforcement.enabledFilters <;> simp [bind, Except.bind]

section Built

variable {history : List (String × Factory σ)} (reached : Registry.Reached history r)
variable {c : Config}

include reached

theorem assembled_of_ofConfig {chain : Chain σ} {events : List Event}
    (built : ofConfig c r = .ok (chain, events)) : Assembled c r chain events := by
  obtain ⟨filters, each, rfl, rfl⟩ := ofConfig_ok_iff.mp built
  have built := buildAll_ok_iff.mp each
  constructor
  · exact built
  · exact run_mapM_watched reached built []
  · intro ctx
    exact List.contains_iff_mem
  · intro name
    rw [List.count_append, count_unused]
    rfl

theorem abandoned_of_ofConfig {error : Error} (failed : ofConfig c r = .error error) :
    Abandoned c r error := by
  obtain ⟨before, name, after, split, front, stuck⟩ :=
    buildAll_error_iff.mp (ofConfig_error.mp failed)
  refine ⟨before, name, after, split, front, stuck, ?_⟩
  rw [buildWatched, split]
  exact run_mapM_watched_error reached front stuck after []

/-- Where only the filters of this library are registered, a chain has the filters it is told to. -/
theorem filterNames_of_own (mine : ∀ entry ∈ history, entry ∈ Registry.own) {chain : Chain σ}
    {events : List Event} (built : ofConfig c r = .ok (chain, events)) :
    chain.filterNames = c.enforcement.enabledFilters := by
  have filters := (assembled_of_ofConfig reached built).filters
  unfold filterNames
  generalize c.enforcement.enabledFilters = names at filters
  generalize chain.filters = filters' at filters
  induction filters with
  | nil => rfl
  | @cons name f names fs first _ ih =>
    obtain ⟨factory, entry, made⟩ := reached.of_build first
    rw [List.map_cons, ih, Registry.name_of_own (mine _ entry) made]

/-- A registry serves what was registered, and a chain is built from it for a configuration exactly
if every enabled name can be built; otherwise the first name that cannot be is reported. -/
theorem ofConfig_all_or_nothing (c : Config) :
    Registry.Serves history r ∧
    ((∃ built, ofConfig c r = .ok built) ↔
      ∀ name ∈ c.enforcement.enabledFilters, ∃ f, r.build name c.filters = .ok f) ∧
    (∀ chain events, ofConfig c r = .ok (chain, events) →
      Assembled c r chain events ∧
      ((∀ entry ∈ history, entry ∈ Registry.own) →
        chain.filterNames = c.enforcement.enabledFilters)) ∧
    (∀ error, ofConfig c r = .error error → Abandoned c r error) := by
  refine ⟨reached.serves, ?success, ?assembled, ?abandoned⟩
  case success =>
    rw [← exists_buildAll_iff]
    constructor
    · rintro ⟨⟨chain, events⟩, built⟩
      obtain ⟨filters, each, _⟩ := ofConfig_ok_iff.mp built
      exact ⟨filters, each⟩
    · rintro ⟨filters, each⟩
      exact ⟨_, ofConfig_ok_iff.mpr ⟨filters, each, rfl, rfl⟩⟩
  case assembled =>
    intro chain events built
    exact ⟨assembled_of_ofConfig reached built, fun mine => filterNames_of_own reached mine built⟩
  case abandoned =>
    intro error failed
    exact abandoned_of_ofConfig reached failed

end Built

-- A built-in filter is replaced by one that fails, and the name behind it is never looked at.
theorem ofConfig_all_or_nothing_replaced :
    let broken : Factory Unit := fun _ => .error (.internal "no disk")
    let history := Registry.own ++ [(Delegate.filterName, broken)]
    let r := (Registry.register Delegate.filterName broken Registry.builtin).1
    let c : Config :=
      { version := 1
        enforcement :=
          { enabledFilters := ["MaxReservationLengthFilter", "ExternalServiceFilter", "Other"] }
        filters := { lengthLimit := some { maxLength := 60 } } }
    Registry.Reached history r ∧
      ofConfig c r = .error (.internal "no disk") ∧
      Abandoned c r (.internal "no disk") ∧
      (buildWatched r c.filters c.enforcement.enabledFilters).2 =
        ["MaxReservationLengthFilter", "ExternalServiceFilter"] := by
  intro broken history r c
  have reached : Registry.Reached history r := .register Registry.reached_builtin _ _
  have failed : ofConfig c r = .error (.internal "no disk") := rfl
  obtain ⟨_, _, _, abandoned⟩ := ofConfig_all_or_nothing reached c
  exact ⟨reached, failed, abandoned _ failed, rfl⟩

end Admission.Chain
