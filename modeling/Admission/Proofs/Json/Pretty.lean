import Admission.Proofs.Json.Value
/-!
Objects of texts, laid out one entry a line. Readers pass over the white space between the tokens,
so the entries are read as they are from the text without any.
-/

namespace Admission.Json

open Decoder

variable {σ : Type}

def Blanks (cs : List Char) : Prop := ∀ c ∈ cs, c = ' ' ∨ c = '\n' ∨ c = '\t' ∨ c = '\r'

theorem blanks_newline (depth : Nat) : Blanks (newline depth) := by
  intro c member
  rcases List.mem_cons.mp member with same | member
  · exact .inr (.inl same)
  · exact .inl (List.eq_of_mem_replicate member)

section Blanks

variable {blanks : List Char} (blank : Blanks blanks) (cs : List Char)

include blank

theorem skipSpace_blanks : skipSpace (blanks ++ cs) = skipSpace cs := by
  induction blanks with
  | nil => rfl
  | cons c blanks ih =>
    obtain ⟨space, blank⟩ := List.forall_mem_cons.mp blank
    rw [List.cons_append, skipSpace, if_pos space, ih blank]

theorem nextKey_blanks (first : Bool) : nextKey first (blanks ++ cs) = nextKey first cs := by
  unfold nextKey
  rw [skipSpace_blanks blank]

theorem nextKey_comma_blanks :
    nextKey false (',' :: (blanks ++ cs)) = nextKey false (',' :: cs) := by
  unfold nextKey
  rw [skipSpace_cons _ (by decide), skipSpace_cons _ (by decide)]
  simp [skipSpace_blanks blank]

theorem closeObject_blanks : closeObject (blanks ++ cs) = closeObject cs := by
  unfold closeObject
  rw [skipSpace_blanks blank]

theorem textFor_blanks (expected : String) (room : Nat) :
    textFor expected room (blanks ++ cs) = textFor expected room cs := by
  unfold textFor mismatch
  rw [skipSpace_blanks blank]

theorem json_blanks (room : Nat) : json room (blanks ++ cs) = json room cs := by
  rw [json.eq_def, json.eq_def, skipSpace_blanks blank]

end Blanks

/-! An object whose values are texts. -/

def flat (es : List (String × String)) : Json := .object (es.map fun e => (e.1, .text e.2))

/-- One entry after the other takes a state to the next one, whatever follows the entry. -/
inductive Spelled (entry : String → σ → List Char → Except Fault (σ × List Char)) :
    σ → List (String × String) → σ → Prop where
  | nil {state : σ} : Spelled entry state [] state
  | cons {state next last : σ} {key value : String} {more : List (String × String)}
      (head : ∀ rest, entry key state (':' :: ' ' :: (textChars value ++ rest)) = .ok (next, rest))
      (tail : Spelled entry next more last) : Spelled entry state ((key, value) :: more) last

def prettyLater (depth : Nat) (es : List (String × String)) : List Char :=
  prettyEntries depth (es.map fun e => (e.1, .text e.2))

theorem prettyLater_cons (depth : Nat) (key value : String) (more : List (String × String)) :
    prettyLater depth ((key, value) :: more) =
      ',' :: (newline (depth + 1) ++ (textChars key ++ ':' :: ' ' ::
        (textChars value ++ prettyLater depth more))) := by
  simp [prettyLater, prettyEntries, prettyChars, chars]

theorem prettyChars_flat_cons (depth : Nat) (key value : String) (more : List (String × String)) :
    prettyChars depth (flat ((key, value) :: more)) =
      '\x7b' :: (newline (depth + 1) ++ (textChars key ++ ':' :: ' ' ::
        (textChars value ++ prettyLater depth more))) := by
  simp [flat, prettyLater, prettyChars, chars]

theorem length_le_prettyLater (depth : Nat) (es : List (String × String)) :
    es.length ≤ (prettyLater depth es).length := by
  induction es with
  | nil => simp
  | cons e es ih =>
    obtain ⟨key, value⟩ := e
    simp only [prettyLater_cons, List.length_cons, List.length_append]
    omega

variable {entry : String → σ → List Char → Except Fault (σ × List Char)} {state last : σ}
  {es : List (String × String)}

theorem entries_prettyLater (depth : Nat) (spelled : Spelled entry state es last) (fuel : Nat)
    (rest : List Char) (enough : es.length < fuel) :
    entries entry fuel false state (prettyLater depth es ++ rest) =
      .ok (last, newline depth ++ '\x7d' :: rest) := by
  induction spelled generalizing fuel with
  | nil =>
    obtain ⟨fuel, rfl⟩ := Nat.exists_eq_succ_of_ne_zero (Nat.ne_of_gt enough)
    have close : prettyLater depth [] ++ rest = newline depth ++ '\x7d' :: rest := by
      simp [prettyLater, prettyEntries]
    rw [close, entries, nextKey_blanks (blanks_newline depth), nextKey_brace]
    rfl
  | @cons state next last key value more head _ ih =>
    obtain ⟨fuel, rfl⟩ := Nat.exists_eq_succ_of_ne_zero (Nat.ne_of_gt (Nat.zero_lt_of_lt enough))
    have later := ih fuel (by simpa using enough)
    simp only [prettyLater_cons, List.cons_append, List.append_assoc, entries,
      nextKey_comma_blanks (blanks_newline (depth + 1)), nextKey_comma, stringBody_flatMap,
      String.ofList_toList, bind, Except.bind, head, later]

/-- The entries between the braces are read one by one, up to the end of the object. -/
theorem objectBody_flat (depth : Nat) (spelled : Spelled entry state es last) (rest : List Char) :
    ∃ body left, prettyChars depth (flat es) ++ rest = '\x7b' :: body ∧
      objectBody entry state body = .ok (last, left) ∧ closeObject left = .ok rest := by
  cases spelled with
  | nil =>
    refine ⟨'\x7d' :: rest, '\x7d' :: rest, ?_, ?_, closeObject_brace rest⟩
    · simp [flat, prettyChars]
    · simp only [objectBody, entries, nextKey_brace]
      rfl
  | @cons _ next _ key value more head tail =>
    have text : prettyChars depth (flat ((key, value) :: more)) ++ rest =
        '\x7b' :: (newline (depth + 1) ++ (textChars key ++ ':' :: ' ' ::
          (textChars value ++ (prettyLater depth more ++ rest)))) := by
      simp [prettyChars_flat_cons]
    refine ⟨_, newline depth ++ '\x7d' :: rest, text, ?_, ?_⟩
    · have enough : more.length < (newline (depth + 1) ++ (textChars key ++ ':' :: ' ' ::
          (textChars value ++ (prettyLater depth more ++ rest)))).length := by
        have later := length_le_prettyLater depth more
        simp only [List.length_append, List.length_cons]
        omega
      have later := entries_prettyLater depth tail _ rest enough
      simp only [objectBody, entries, nextKey_blanks (blanks_newline (depth + 1)), nextKey_first,
        stringBody_flatMap, String.ofList_toList, bind, Except.bind, head]
      exact later
    · rw [closeObject_blanks (blanks_newline depth), closeObject_brace]

end Admission.Json
