import Admission.Delegate.Basic
import Admission.Proofs.Delegate.Target
/-!
Which accepted sections a delegate can be built from. Checking reads an endpoint alone, and blanks
at its end do no harm there; building reads it with the path of a hook behind them, and then they
are part of the server's name.
-/

namespace Admission.Delegate

open Url.Reader

/-- An endpoint that ends in its server, but for blanks or controls behind it. -/
def Dangling (endpoint : String) : Prop :=
  (∃ c ∈ trailing endpoint.toList, isLineBreak c = false) ∧
    ∀ c ∈ Url.named (cleaned endpoint.toList), endsAuthority true c = false

-- Looking through the text, not through all characters there are.
instance (endpoint : String) : Decidable (Dangling endpoint) :=
  have := List.decidableBEx (fun c => isLineBreak c = false) (trailing endpoint.toList)
  have := List.decidableBAll (fun c => endsAuthority true c = false)
    (Url.named (cleaned endpoint.toList))
  inferInstanceAs (Decidable (_ ∧ _))

section Placed

variable {e : String} {u : Url} {a : Authority} {rest w : List Char} {k : Nat}
variable (placed : Placed e u a rest w k)

include placed

theorem Placed.dangling_iff : Dangling e ↔ w ≠ [] ∧ rest = [] := by
  have ends : (∃ c ∈ trailing e.toList, isLineBreak c = false) ↔ w ≠ [] := by
    rw [ne_eq, placed.nothing]
    simp
  unfold Dangling
  rw [ends]
  exact and_congr_right fun given => (placed.bare given).symm

/-- Hooks can be put below an endpoint exactly if it does not dangle. -/
theorem Placed.parse_below_iff (h : Hook) :
    (∃ t, Url.parse (below e (hookPath h)) = .ok t) ↔ ¬ Dangling e := by
  obtain ⟨parts, hangs⟩ := hangs_hookPath h
  rw [placed.dangling_iff]
  constructor
  · rintro ⟨t, read⟩ ⟨given, none⟩
    obtain ⟨fault, refused⟩ := placed.refused _ _ hangs none given
    rw [refused] at read
    cases read
  · intro fits
    have goes : rest ≠ [] ∨ w = [] := by
      by_cases given : w = []
      · exact .inr given
      · exact .inl fun none => fits ⟨given, none⟩
    exact ⟨_, placed.longer _ _ hangs goes⟩

end Placed

variable {c : ServiceSection}

/-- Of an accepted section, only hooks without a URL of their own can be without a target, and only
if the endpoint dangles. -/
theorem exists_target_iff (valid : c.validate = .ok ()) (h : Hook) :
    (∃ t, target c h = .ok t) ↔
      ¬ (overrideUrl c h = none ∧ ∃ e, c.endpoint = some e ∧ Dangling e) := by
  cases own : overrideUrl c h with
  | some url =>
    obtain ⟨t, -, found⟩ := exists_target_of_override valid own
    simp [found]
  | none =>
    cases given : c.endpoint with
    | none => simp [target, targetText, own, given]
    | some e =>
      have member : ("endpoint", some e) ∈ c.urls := by simp [ServiceSection.urls, given]
      obtain ⟨u, read, web⟩ := ServiceSection.url_of_validate valid member
      obtain ⟨a, rest, w, k, placed⟩ := exists_placed read web.special web.not_file
      have text := targetText_below given own
      simp only [Option.some.injEq, true_and, exists_eq_left', ← placed.parse_below_iff h]
      constructor
      · rintro ⟨t, found⟩
        obtain ⟨v, read, -⟩ := parse_of_target text found
        exact ⟨v, read⟩
      · rintro ⟨v, read⟩
        exact ⟨_, target_of_text text read⟩

/-- The first hook that has no URL of its own. -/
def firstBelow (c : ServiceSection) : Option Hook :=
  Hook.all.find? fun h => (overrideUrl c h).isNone

/-- The error of a section whose endpoint dangles while hooks are to be put below it. -/
def Unplaced (c : ServiceSection) (error : Error) : Prop :=
  ∃ e hook fault, c.endpoint = some e ∧ Dangling e ∧ firstBelow c = some hook ∧
    Url.parse (below e (hookPath hook)) = .error fault ∧
    error = .configuration ("invalid external service url " ++ below e (hookPath hook) ++ ": " ++
      fault.message)

theorem resolve_error_iff {error : Error} :
    Targets.resolve c = .error error ↔
      ∃ h, (Hook.all.find? fun h => (target c h).toOption.isNone) = some h ∧
        target c h = .error error := by
  cases first : target c .create with
  | error e => simp [Targets.resolve, first, Hook.all, Except.toOption, bind, Except.bind]
  | ok create =>
    cases second : target c .update with
    | error e =>
      simp [Targets.resolve, first, second, Hook.all, Except.toOption, bind, Except.bind]
    | ok update =>
      cases third : target c .onEnd <;>
        simp [Targets.resolve, first, second, third, Hook.all, Except.toOption, bind, Except.bind]

theorem resolve_error_of_validate (valid : c.validate = .ok ()) {error : Error} :
    Targets.resolve c = .error error ↔ Unplaced c error := by
  have found (h : Hook) : (target c h).toOption.isNone = true ↔ ¬ ∃ t, target c h = .ok t := by
    cases target c h <;> simp [Except.toOption]
  rw [resolve_error_iff]
  by_cases dangles : ∃ e, c.endpoint = some e ∧ Dangling e
  · obtain ⟨e, given, dangling⟩ := dangles
    have none (h : Hook) : (target c h).toOption.isNone = (overrideUrl c h).isNone := by
      rw [Bool.eq_iff_iff, found, exists_target_iff valid]
      simp [given, dangling]
    simp only [none]
    constructor
    · rintro ⟨h, first, failed⟩
      have own : overrideUrl c h = .none := by simpa using List.find?_some first
      rw [target, targetText_below given own] at failed
      cases read : Url.parse (below e (hookPath h)) with
      | ok t => simp [parseTarget, read, Except.map, Except.mapError] at failed
      | error fault =>
        simp only [parseTarget, read, Except.map, Except.mapError, Except.error.injEq] at failed
        exact ⟨e, h, fault, given, dangling, first, read, failed.symm⟩
    · rintro ⟨e', h, fault, given', -, first, read, rfl⟩
      cases given.symm.trans given'
      have own : overrideUrl c h = .none := by simpa using List.find?_some first
      refine ⟨h, first, ?_⟩
      simp only [target, targetText_below given own, parseTarget, read]
      rfl
  · have all (h : Hook) : (target c h).toOption.isNone = false := by
      rw [Bool.eq_false_iff, ne_eq, found, not_not, exists_target_iff valid]
      exact fun stuck => dangles stuck.2
    constructor
    · rintro ⟨h, first, -⟩
      have missing := List.find?_some first
      rw [all h] at missing
      cases missing
    · rintro ⟨e, -, -, given, dangling, -⟩
      exact absurd ⟨e, given, dangling⟩ dangles

/-- An accepted section has a token source, and nothing but its targets can keep a delegate from
being built from it. -/
theorem ofSection_error_iff (valid : c.validate = .ok ()) (counted : Bool) {error : Error} :
    ofSection c counted = .error error ↔ Unplaced c error := by
  obtain ⟨token, source⟩ : ∃ token, tokenSource c = .ok token := by
    unfold tokenSource
    rcases ServiceSection.token_of_validate valid with given | given
    · obtain ⟨token, given⟩ := Option.isSome_iff_exists.mp given
      exact ⟨_, by rw [given]⟩
    · obtain ⟨name, given⟩ := Option.isSome_iff_exists.mp given
      cases c.token with
      | some token => exact ⟨_, rfl⟩
      | none => exact ⟨_, by rw [given]⟩
  rw [← resolve_error_of_validate valid]
  cases resolved : Targets.resolve c <;> simp [ofSection, source, resolved, bind, Except.bind]

end Admission.Delegate
