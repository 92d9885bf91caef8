import Admission.Registry
import Admission.Proofs.Except
import Admission.Proofs.Table
/-!
Registries by how they were filled. A name stands for what was registered for it last, and the
names are listed in their order, each once.
-/

namespace Admission.Registry

variable {σ : Type}

/-- A registry that came from an empty one by these registrations, the last one at the end. -/
inductive Reached : List (String × Factory σ) → Registry σ → Prop where
  | new : Reached [] []
  | register {history : List (String × Factory σ)} {r : Registry σ} (reached : Reached history r)
      (name : String) (f : Factory σ) : Reached (history ++ [(name, f)]) (register name f r).1

/-- The registrations of the filters of this library. -/
def own : List (String × Factory σ) :=
  [(LengthLimit.filterName, lengthLimit), (Delegate.filterName, delegate)]

theorem reached_builtin : Reached own (builtin : Registry σ) :=
  .register (.register .new LengthLimit.filterName lengthLimit) Delegate.filterName delegate

/-- What the registrations mean for the registry. -/
structure Serves (history : List (String × Factory σ)) (r : Registry σ) : Prop where
  sorted : r.names.Pairwise (· < ·)
  registered : ∀ name, name ∈ r.names ↔ ∃ f, (name, f) ∈ history
  latest : ∀ {before after : List (String × Factory σ)} {name : String} {f : Factory σ},
    history = before ++ (name, f) :: after → (∀ g, (name, g) ∉ after) →
    ∀ sections, r.build name sections = f sections
  unknown : ∀ name, (∀ f, (name, f) ∉ history) → ∀ sections, r.build name sections =
    .error (.configuration ("enabled filter " ++ name ++ " has no implementation (known: " ++
      ", ".intercalate r.names ++ ")"))

section Reached

variable {history : List (String × Factory σ)} {r : Registry σ}

theorem Reached.ascending (reached : Reached history r) : r.Ascending Text.order := by
  induction reached with
  | new => exact .nil
  | register _ name f ih => exact Table.insert_ascending ih

theorem Reached.mem_names (reached : Reached history r) (name : String) :
    name ∈ r.names ↔ ∃ f, (name, f) ∈ history := by
  induction reached with
  | new => simp [names, Table.keys]
  | @register history r _ other f ih =>
    have grown : name ∈ names (Registry.register other f r).1 ↔ name = other ∨ name ∈ r.names :=
      Table.mem_keys_alter
    rw [grown, ih]
    constructor
    · rintro (same | ⟨g, old⟩)
      · exact ⟨f, by simp [same]⟩
      · exact ⟨g, List.mem_append_left _ old⟩
    · rintro ⟨g, entry⟩
      rcases List.mem_append.mp entry with old | last
      · exact .inr ⟨g, old⟩
      · exact .inl (congrArg Prod.fst (List.mem_singleton.mp last))

/-- Looking from the end of the history, the first registration of a name counts. -/
theorem Reached.find? (reached : Reached history r) (name : String) :
    Table.find? Text.order name r = history.reverse.lookup name := by
  induction reached with
  | new => rfl
  | @register history r _ other f ih =>
    have put : Table.find? Text.order name (Registry.register other f r).1 =
        if name = other then some f else Table.find? Text.order name r := Table.find?_insert
    rw [put, ih, List.reverse_append, List.reverse_singleton, List.singleton_append,
      List.lookup_cons]
    by_cases same : name = other
    · simp [same]
    · simp only [if_neg same, beq_eq_false_iff_ne.mpr same]

theorem Reached.find?_eq_none (reached : Reached history r) {name : String}
    (absent : ∀ f, (name, f) ∉ history) : Table.find? Text.order name r = none := by
  rw [reached.find?, List.lookup_eq_none_iff]
  rintro ⟨other, f⟩ entry
  have different : name ≠ other := fun same => absent f (same ▸ List.mem_reverse.mp entry)
  simpa using different

theorem Reached.mem_of_find? (reached : Reached history r) {name : String} {f : Factory σ}
    (found : Table.find? Text.order name r = some f) : (name, f) ∈ history := by
  rw [reached.find?, List.lookup_eq_some_iff] at found
  obtain ⟨_, _, same, _⟩ := found
  apply List.mem_reverse.mp
  rw [same]
  simp

theorem Reached.serves (reached : Reached history r) : Serves history r where
  sorted := by
    have order := reached.ascending
    rw [Table.Ascending] at order
    exact List.pairwise_map.mpr (order.imp fun below => (Text.order_lt_iff _ _).mp below)
  registered := reached.mem_names
  latest := by
    intro before after name f split last sections
    have found : Table.find? Text.order name r = some f := by
      rw [reached.find?, List.lookup_eq_some_iff]
      refine ⟨after.reverse, before.reverse, by simp [split], ?_⟩
      rintro ⟨other, g⟩ entry
      have different : name ≠ other := fun same => last g (same ▸ List.mem_reverse.mp entry)
      simpa using different
    rw [build, found]
  unknown := by
    intro name absent sections
    rw [build, reached.find?_eq_none absent]
    rfl

/-- Only what is registered can build anything. -/
theorem Reached.of_build (reached : Reached history r) {name : String}
    {sections : FiltersSection} {f : Filter σ} (built : r.build name sections = .ok f) :
    ∃ factory, (name, factory) ∈ history ∧ factory sections = .ok f := by
  unfold build at built
  split at built
  · cases built
  · rename_i factory found
    exact ⟨factory, reached.mem_of_find? found, built⟩

end Reached

/-- The filters of this library are called as they are registered. -/
theorem name_of_own {name : String} {factory : Factory σ} (mine : (name, factory) ∈ own)
    {sections : FiltersSection} {f : Filter σ} (built : factory sections = .ok f) :
    f.name = name := by
  simp only [own, List.mem_cons, Prod.mk.injEq, List.not_mem_nil, or_false] at mine
  rcases mine with ⟨rfl, rfl⟩ | ⟨rfl, rfl⟩
  · unfold lengthLimit at built
    split at built
    · cases built
    · cases built
      rfl
  · unfold delegate at built
    split at built
    · cases built
    · obtain ⟨d, _, rfl⟩ := of_map_ok built
      rfl

/-! Which factories run. -/

/-- `build` with a note of the factory that it runs, if there is one. -/
def watched (r : Registry σ) (sections : FiltersSection) (name : String) :
    ExceptT Error (StateM (List String)) (Filter σ) := do
  if name ∈ r.names then modify (· ++ [name])
  ExceptT.mk (Pure.pure (r.build name sections))

theorem run_watched (r : Registry σ) (sections : FiltersSection) (name : String)
    (ran : List String) :
    (r.watched sections name).run.run ran =
      (r.build name sections, ran ++ if name ∈ r.names then [name] else []) := by
  by_cases listed : name ∈ r.names
  · simp only [watched, listed, if_true]
    rfl
  · simp only [watched, listed, if_false, List.append_nil]
    rfl

end Admission.Registry
