import Mathlib.Data.List.Forall2
/-!
Computations that gave a result, of which each step did, and those that failed.
-/

namespace Admission

variable {ε ε' α β : Type}

theorem of_bind_ok {x : Except ε α} {f : α → Except ε β} {r : β} (done : (x >>= f) = .ok r) :
    ∃ v, x = .ok v ∧ f v = .ok r := by
  cases x with
  | error e => cases done
  | ok v => exact ⟨v, rfl, done⟩

theorem of_map_ok {x : Except ε α} {f : α → β} {r : β} (done : x.map f = .ok r) :
    ∃ v, x = .ok v ∧ f v = r := by
  cases x with
  | error e => cases done
  | ok v => exact ⟨v, rfl, Except.ok.inj done⟩

theorem map_eq_error_iff {x : Except ε α} {f : α → β} {e : ε} :
    x.map f = .error e ↔ x = .error e := by
  cases x <;> simp [Except.map]

theorem of_mapError_ok {x : Except ε α} {f : ε → ε'} {r : α} (done : x.mapError f = .ok r) :
    x = .ok r := by
  cases x with
  | error e => cases done
  | ok v => exact congrArg Except.ok (Except.ok.inj done)

theorem mapM_eq_some_iff {f : β → Option α} {items : List β} {vs : List α} :
    items.mapM f = some vs ↔ List.Forall₂ (fun item v => f item = some v) items vs := by
  induction items generalizing vs with
  | nil => simp [eq_comm]
  | cons item items ih =>
    simp [List.mapM_cons, List.forall₂_cons_left_iff, ← ih, Option.bind_eq_some_iff, @eq_comm _ vs]

end Admission
