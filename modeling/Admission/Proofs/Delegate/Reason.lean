import Admission.Delegate.Denial
import Admission.Proofs.Json.Members
import Admission.Proofs.Text.Blank
/-!
The reason of a denial. It is the message of the body, however the body is written as JSON and
whatever else it has, or else the text of the body. A reason always says something.
-/

namespace Admission.Delegate

open Json (Blanks Spells Written Members)
open Text (Visible Stripped)

/-- An object with one message among members of any other names, in any layout. -/
inductive Says (message : String) : List Char → Prop where
  | mk {front back written members : List Char} {before after : List (String × List Char)}
      (first : Blanks front) (last : Blanks back) (spells : Spells message.toList written)
      (others : ∀ e ∈ before ++ after, e.1 ≠ "message" ∧ Written .value e.2)
      (object : Members (before ++ ("message", '"' :: (written ++ ['"'])) :: after) members) :
      Says message (front ++ '\x7b' :: (members ++ back))

namespace DenyBody

theorem moves_message (style : Json.RecordStyle) (lax : style.strict = false) (room : Nat)
    {message : String} {written : List Char} {before after : List (String × List Char)}
    (spells : Spells message.toList written)
    (others : ∀ e ∈ before ++ after, e.1 ≠ "message" ∧ Written .value e.2) :
    Json.Moves (Json.fieldEntry style record room) record.empty
      (before ++ ("message", '"' :: (written ++ ['"'])) :: after) ((), some (some message)) := by
  have strangers : ∀ e ∈ before ++ after, e.1 ∉ record.names ∧ Written .value e.2 := by
    intro e member
    obtain ⟨other, value⟩ := others e member
    exact ⟨by simpa [record, Record.names, Record.defaulted] using other, value⟩
  rw [List.forall_mem_append] at strangers
  refine (Json.moves_strangers lax _ strangers.1).append (.cons ?_
    (Json.moves_strangers lax _ strangers.2))
  intro middle blanks rest second front _
  exact Json.fieldEntry_last second (Json.optional_text spells front rest)

/-- The message is read from whatever the body says it with. -/
theorem run_says {body message : String} (told : Says message body.toList) :
    decoder.run body = .ok ⟨some message⟩ := by
  generalize text : body.toList = cs at told
  obtain ⟨first, last, spells, others, object⟩ := told
  rename_i front back written members before after
  obtain ⟨left, read, closed⟩ := object.objectBody
    (moves_message (.ofName "DenyBody" false record.size) rfl 126 spells others) back
  have built : record.build ((), some (some message)) = .ok ⟨some message⟩ := rfl
  have whole : decoder Json.maxDepth body.toList = .ok (⟨some message⟩, back) := by
    rw [text, decoder, Json.record, Json.skipSpace_blanks first, Json.skipSpace_cons _ (by decide)]
    simp [Json.maxDepth, Json.fromObject, read, built, closed, bind, Except.bind]
  have behind : Json.skipSpace back = [] := by
    rw [← List.append_nil back, Json.skipSpace_blanks last]
    rfl
  rw [Json.Decoder.run, whole]
  simp only [bind, Except.bind, behind]

theorem message?_eq_some_iff {body m : String} :
    message? body = some m ↔ decoder.run body = .ok ⟨some m⟩ ∧ Visible m := by
  rw [message?]
  rcases decoder.run body with fault | ⟨_ | message⟩
  · simp [Except.toOption]
  · simp [Except.toOption]
  · change (if Text.blank message then none else some message) = some m ↔ _
    rw [Option.ite_none_left_eq_some, Text.blank_iff, not_not, Option.some.injEq]
    constructor
    · rintro ⟨visible, rfl⟩
      exact ⟨rfl, visible⟩
    · rintro ⟨decoded, visible⟩
      cases decoded
      exact ⟨visible, rfl⟩

end DenyBody

/-- The body has no message, or one that says nothing. -/
def Silent (body : String) : Prop := ∀ m, DenyBody.decoder.run body = .ok ⟨some m⟩ → ¬ Visible m

/-- What a body gives as the reason. -/
structure Explains (body reason : String) : Prop where
  visible : Visible reason
  told : ∀ m, Visible m → Says m body.toList → reason = m
  decoded : ∀ m, Visible m → DenyBody.decoder.run body = .ok ⟨some m⟩ → reason = m
  stripped : Silent body → Visible body → Stripped body.toList reason.toList
  fixed : Silent body → ¬ Visible body → reason = noReason

theorem denyReason_of_decoded {body m : String} (visible : Visible m)
    (decoded : DenyBody.decoder.run body = .ok ⟨some m⟩) : denyReason body = m := by
  rw [denyReason, DenyBody.message?_eq_some_iff.mpr ⟨decoded, visible⟩]

theorem message?_of_silent {body : String} (silent : Silent body) :
    DenyBody.message? body = none := by
  refine Option.eq_none_iff_forall_ne_some.mpr fun m found => ?_
  obtain ⟨decoded, visible⟩ := DenyBody.message?_eq_some_iff.mp found
  exact silent m decoded visible

theorem denyReason_of_silent {body : String} (silent : Silent body) :
    denyReason body = if Text.blank body then noReason else Text.trimmed body := by
  rw [denyReason, message?_of_silent silent]

theorem visible_denyReason (body : String) : Visible (denyReason body) := by
  rw [denyReason]
  cases found : DenyBody.message? body with
  | some m => exact (DenyBody.message?_eq_some_iff.mp found).2
  | none =>
    dsimp only
    split
    · exact ⟨'d', by simp [noReason], rfl⟩
    · rename_i shown
      rw [Text.blank_iff, not_not] at shown
      exact shown.trimmed

theorem explains_denyReason (body : String) : Explains body (denyReason body) where
  visible := visible_denyReason body
  told _ visible told := denyReason_of_decoded visible (DenyBody.run_says told)
  decoded _ visible decoded := denyReason_of_decoded visible decoded
  stripped silent visible := by
    rw [denyReason_of_silent silent, Text.blank_eq_false_iff.mpr visible, if_neg (by decide),
      Text.trimmed, String.toList_ofList]
    exact Text.stripped_trim body.toList
  fixed silent invisible := by
    rw [denyReason_of_silent silent, if_pos (Text.blank_iff.mpr invisible)]

end Admission.Delegate
