import Admission.Decision
import Admission.Proofs.Json.Pretty
/-!
A decision that was laid out is read back as it was, whatever its filter and its reason are.
-/

namespace Admission.Decision

open Json Json.Decoder

/-- The kind first, then what goes with it. -/
def members : Decision → List (String × String)
  | .allow => [("decision", "allow")]
  | .deny filter reason => [("decision", "deny"), ("filter", filter), ("reason", reason)]
  | .error filter reason => [("decision", "error"), ("filter", filter), ("reason", reason)]

/-- What is held beside the kind. -/
def held : Decision → List (String × Json)
  | .allow => []
  | .deny filter reason => [("filter", .text filter), ("reason", .text reason)]
  | .error filter reason => [("filter", .text filter), ("reason", .text reason)]

theorem toJson_eq_flat (d : Decision) : d.toJson = flat d.members := by
  cases d <;> rfl

theorem assemble_held (d : Decision) : assemble d.kind (.entries d.held) = .ok d := by
  cases d <;> rfl

theorem blanks_blank : Blanks [' '] := by
  intro c member
  exact .inl (List.mem_singleton.mp member)

theorem taggedEntry_kind {name : String} {kind : Kind} (known : kinds.lookup name = some kind)
    (room : Nat) (parts : List (String × Json)) (rest : List Char) :
    taggedEntry room "decision" (none, parts) (':' :: ' ' :: (textChars name ++ rest)) =
      .ok ((some kind, parts), rest) := by
  have read : textFor "variant identifier" room (' ' :: (textChars name ++ rest)) =
      .ok (name, rest) :=
    (textFor_blanks blanks_blank _ _ _).trans (textFor_textChars _ _ _ _)
  simp only [taggedEntry, if_true, colon_cons, bind, Except.bind, named, read, known]

theorem taggedEntry_part {key : String} (other : key ≠ "decision") (room : Nat)
    (kind : Option Kind) (parts : List (String × Json)) (value : String) (rest : List Char) :
    taggedEntry room key (kind, parts) (':' :: ' ' :: (textChars value ++ rest)) =
      .ok ((kind, parts ++ [(key, .text value)]), rest) := by
  have read : json room (' ' :: (textChars value ++ rest)) = .ok (.text value, rest) :=
    (json_blanks blanks_blank _ _).trans (json_textChars _ _ _)
  simp only [taggedEntry, if_neg other, colon_cons, bind, Except.bind, read]

theorem spelled_members (room : Nat) (d : Decision) :
    Spelled (taggedEntry room) (none, []) d.members (some d.kind, d.held) := by
  cases d with
  | allow => exact .cons (taggedEntry_kind rfl _ _) .nil
  | deny filter reason =>
    apply Spelled.cons (taggedEntry_kind rfl _ _)
    apply Spelled.cons (taggedEntry_part (by decide) _ _ _ _)
    exact .cons (taggedEntry_part (by decide) _ _ _ _) .nil
  | error filter reason =>
    apply Spelled.cons (taggedEntry_kind rfl _ _)
    apply Spelled.cons (taggedEntry_part (by decide) _ _ _ _)
    exact .cons (taggedEntry_part (by decide) _ _ _ _) .nil

theorem decoder_pretty (d : Decision) (room depth : Nat) (rest : List Char) :
    decoder (room + 1) (prettyChars depth d.toJson ++ rest) = .ok (d, rest) := by
  obtain ⟨body, left, text, read, closed⟩ := objectBody_flat depth (spelled_members room d) rest
  rw [toJson_eq_flat, text, decoder, skipSpace_cons _ (by decide)]
  simp [read, closed, assemble_held, bind, Except.bind]

theorem run_pretty (d : Decision) : decoder.run (d.toJson.pretty ++ "\n") = .ok d := by
  have chars : (d.toJson.pretty ++ "\n").toList = prettyChars 0 d.toJson ++ ['\n'] := by
    simp [pretty]
  rw [Decoder.run, chars, maxDepth, decoder_pretty]
  rfl

end Admission.Decision
