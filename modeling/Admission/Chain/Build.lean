import Admission.Chain.Basic
import Admission.Config.Validation
import Admission.Registry
/-!
A chain from a configuration: one filter for each enabled name, in the order of the names. The
first name that cannot be built fails the whole.
-/

namespace Admission.Chain

variable {σ : Type}

def buildAll (r : Registry σ) (sections : FiltersSection) :
    List String → Except Error (List (Filter σ))
  | [] => .ok []
  | name :: rest => do
      let f ← r.build name sections
      let fs ← buildAll r sections rest
      .ok (f :: fs)

def distinct : List String → List String
  | [] => []
  | name :: rest => if name ∈ rest then distinct rest else name :: distinct rest

/-- Sections of filters that are not enabled. -/
def unused (c : Config) : List Event :=
  let warn (present : Bool) (name : String) : List Event :=
    if present ∧ name ∉ c.enforcement.enabledFilters then [.sectionUnused name] else []
  warn c.filters.lengthLimit.isSome LengthLimit.filterName ++
    warn c.filters.service.isSome Delegate.filterName

def builtEvent (c : Config) (filters : List (Filter σ)) : Event :=
  .chainBuilt (filters.map (·.name)) (distinct c.enforcement.exemptProjects).length
    c.enforcement.hookTimeout

/-- The chain and what is logged about it. -/
def ofConfig (c : Config) (r : Registry σ) : Except Error (Chain σ × List Event) := do
  let filters ← buildAll r c.filters c.enforcement.enabledFilters
  .ok ({ filters := filters
         exemptProjects := c.enforcement.exemptProjects
         hookTimeout := Time.Delay.ofMillis c.enforcement.hookTimeout },
       unused c ++ [builtEvent c filters])

end Admission.Chain
