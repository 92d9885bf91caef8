import Admission.Delegate.Basic
import Admission.Filter.LengthLimit
/-!
The filters that can be enabled, each by its name with a factory that builds it from the sections
of a configuration.
-/

namespace Admission

abbrev Factory (σ : Type) := FiltersSection → Except Error (Filter σ)

abbrev Registry (σ : Type) := Table String (Factory σ)

namespace Registry

variable {σ : Type}

/-- A name that is registered already gets the new factory, and that is logged. -/
def register (name : String) (f : Factory σ) (r : Registry σ) : Registry σ × List Event :=
  (r.insert Text.order name f,
    if (r.find? Text.order name).isSome then [.factoryReplaced name] else [])

def names (r : Registry σ) : List String := r.keys

def unknown (name : String) (r : Registry σ) : Error :=
  .configuration ("enabled filter " ++ name ++ " has no implementation (known: " ++
    ", ".intercalate r.names ++ ")")

def build (r : Registry σ) (name : String) (sections : FiltersSection) :
    Except Error (Filter σ) :=
  match r.find? Text.order name with
  | none => .error (unknown name r)
  | some factory => factory sections

def missingSection (filter field : String) : Error :=
  .configuration (filter ++ " is enabled but filters." ++ field ++ " is not configured")

def lengthLimit : Factory σ := fun sections =>
  match sections.lengthLimit with
  | none => .error (missingSection LengthLimit.filterName "max_reservation_length")
  | some c =>
      .ok (LengthLimit.ofSeconds c.maxLength c.extensionWindow c.exemptProjects).filter

def delegate : Factory σ := fun sections =>
  match sections.service with
  | none => .error (missingSection Delegate.filterName "external_service")
  | some c => (Delegate.ofSection c true).map Delegate.filter

/-- The filters of this library. -/
def builtin : Registry σ :=
  (register Delegate.filterName delegate (register LengthLimit.filterName lengthLimit []).1).1

end Registry

end Admission
