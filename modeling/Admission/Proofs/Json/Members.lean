import Admission.Json.Record
import Admission.Proofs.Json.Skip
/-!
Objects in any layout. A reader of entries that takes each member to the next state takes the whole
object to the last one, however the keys are written and whatever white space stands between the
tokens. A record that may have other members passes over them.
-/

namespace Admission.Json

open Decoder

variable {σ : Type}

/-- A member, from behind the mark in front of it to the mark that follows it. -/
inductive Member (key : String) (value : List Char) : List Char → Prop where
  | mk {lead name middle before after : List Char} (first : Blanks lead)
      (spells : Spells key.toList name) (second : Blanks middle) (front : Blanks before)
      (back : Blanks after) :
      Member key value
        (lead ++ '"' :: (name ++ '"' :: (middle ++ ':' :: (before ++ (value ++ after)))))

/-- Members behind others, up to the end of the object. -/
inductive LaterMembers : List (String × List Char) → List Char → Prop where
  | close : LaterMembers [] ['\x7d']
  | next {key : String} {value first more : List Char} {es : List (String × List Char)}
      (head : Member key value first) (tail : LaterMembers es more) :
      LaterMembers ((key, value) :: es) (',' :: (first ++ more))

/-- What stands behind the opening of an object, with its keys and the texts of its values. -/
inductive Members : List (String × List Char) → List Char → Prop where
  | none {blanks : List Char} (blank : Blanks blanks) : Members [] (blanks ++ ['\x7d'])
  | some {key : String} {value first more : List Char} {es : List (String × List Char)}
      (head : Member key value first) (tail : LaterMembers es more) :
      Members ((key, value) :: es) (first ++ more)

/-- One member after the other takes a state to the next one, each up to the end of its value. -/
inductive Moves (entry : String → σ → List Char → Except Fault (σ × List Char)) :
    σ → List (String × List Char) → σ → Prop where
  | nil {state : σ} : Moves entry state [] state
  | cons {state next last : σ} {key : String} {value : List Char}
      {more : List (String × List Char)}
      (head : ∀ middle before rest, Blanks middle → Blanks before → Ends rest →
        entry key state (middle ++ ':' :: (before ++ (value ++ rest))) = .ok (next, rest))
      (tail : Moves entry next more last) : Moves entry state ((key, value) :: more) last

theorem Moves.append {entry : String → σ → List Char → Except Fault (σ × List Char)}
    {state next last : σ} {es more : List (String × List Char)} (first : Moves entry state es next)
    (second : Moves entry next more last) : Moves entry state (es ++ more) last := by
  induction first with
  | nil => exact second
  | cons head _ ih => exact .cons head (ih second)

theorem LaterMembers.ends {es : List (String × List Char)} {cs : List Char}
    (later : LaterMembers es cs) (rest : List Char) : Ends (cs ++ rest) := by
  intro c tail same
  cases later <;> cases same <;> decide

theorem LaterMembers.length_lt {es : List (String × List Char)} {cs : List Char}
    (later : LaterMembers es cs) : es.length < cs.length := by
  induction later with
  | close => simp
  | next _ _ ih =>
    simp only [List.length_cons, List.length_append]
    omega

theorem colon_blanks {blanks : List Char} (blank : Blanks blanks) (cs : List Char) :
    colon (blanks ++ ':' :: cs) = .ok cs := by
  rw [colon, skipSpace_blanks blank, skipSpace_cons _ (by decide)]
  rfl

theorem nextKey_quote {blanks : List Char} (blank : Blanks blanks) (cs : List Char) :
    nextKey true (blanks ++ '"' :: cs) = .ok (some cs) := by
  rw [nextKey_blanks blank]
  simp [nextKey, skipSpace]

theorem nextKey_comma_quote {blanks : List Char} (blank : Blanks blanks) (cs : List Char) :
    nextKey false (',' :: (blanks ++ '"' :: cs)) = .ok (some cs) := by
  rw [nextKey_comma_blanks blank]
  simp [nextKey, skipSpace]

variable {entry : String → σ → List Char → Except Fault (σ × List Char)} {state last : σ}
  {es : List (String × List Char)} {cs : List Char}

/-- A member is found by its key, which is read before the entry is. -/
theorem Member.found {key : String} {value first rest : List Char} (member : Member key value first)
    (ends : Ends rest) {next : σ}
    (step : ∀ middle before rest, Blanks middle → Blanks before → Ends rest →
      entry key state (middle ++ ':' :: (before ++ (value ++ rest))) = .ok (next, rest)) :
    ∃ body tail after, Blanks after ∧ nextKey true (first ++ rest) = .ok (some body) ∧
      nextKey false (',' :: (first ++ rest)) = .ok (some body) ∧
      stringBody body = .ok (key.toList, tail) ∧
      entry key state tail = .ok (next, after ++ rest) := by
  obtain ⟨first, spells, second, front, back⟩ := member
  rename_i lead name middle before after
  have text : lead ++ '"' :: (name ++ '"' :: (middle ++ ':' :: (before ++ (value ++ after)))) ++
      rest = lead ++ '"' :: (name ++ '"' :: (middle ++ ':' ::
        (before ++ (value ++ (after ++ rest))))) := by
    simp
  rw [text]
  exact ⟨_, _, after, back, nextKey_quote first _, nextKey_comma_quote first _,
    spells.stringBody _, step middle before (after ++ rest) second front (ends_blanks back ends)⟩

theorem entries_laterMembers (moves : Moves entry state es last) (later : LaterMembers es cs)
    {blanks : List Char} (blank : Blanks blanks) (rest : List Char) {fuel : Nat}
    (enough : es.length < fuel) :
    ∃ left, entries entry fuel false state (blanks ++ (cs ++ rest)) = .ok (last, left) ∧
      closeObject left = .ok rest := by
  obtain ⟨fuel, rfl⟩ := Nat.exists_eq_succ_of_ne_zero (Nat.ne_of_gt (Nat.zero_lt_of_lt enough))
  induction later generalizing state blanks fuel with
  | close =>
    cases moves
    refine ⟨blanks ++ '\x7d' :: rest, ?_, ?_⟩
    · rw [entries, List.singleton_append, nextKey_blanks blank, nextKey_brace]
      rfl
    · rw [closeObject_blanks blank, closeObject_brace]
  | @next key value first more es head tail ih =>
    cases moves with
    | cons step moves =>
      obtain ⟨fuel, rfl⟩ := Nat.exists_eq_succ_of_ne_zero (n := fuel) (by simp at enough; omega)
      obtain ⟨body, after, behind, blank', _, found, name, read⟩ :=
        head.found (tail.ends rest) step
      obtain ⟨left, all, closed⟩ := ih moves blank' fuel (by simpa using enough)
      refine ⟨left, ?_, closed⟩
      rw [entries, nextKey_blanks blank, List.cons_append, List.append_assoc, found]
      simp only [bind, Except.bind, name, String.ofList_toList, read, all]

/-- The members of an object are read one by one, up to its end. -/
theorem Members.objectBody (members : Members es cs) (moves : Moves entry state es last)
    (rest : List Char) :
    ∃ left, Decoder.objectBody entry state (cs ++ rest) = .ok (last, left) ∧
      closeObject left = .ok rest := by
  cases members with
  | @none blanks blank =>
    cases moves
    refine ⟨blanks ++ ['\x7d'] ++ rest, ?_, ?_⟩
    · rw [Decoder.objectBody, entries, List.append_assoc, nextKey_blanks blank,
        List.singleton_append, nextKey_brace]
      rfl
    · rw [List.append_assoc, closeObject_blanks blank, List.singleton_append, closeObject_brace]
  | @some key value first more es head tail =>
    cases moves with
    | cons step moves =>
      obtain ⟨body, after, behind, blank, found, _, name, read⟩ := head.found (tail.ends rest) step
      have enough : es.length < (first ++ more ++ rest).length := by
        have short := tail.length_lt
        simp only [List.length_append]
        omega
      obtain ⟨left, all, closed⟩ := entries_laterMembers moves tail blank rest enough
      refine ⟨left, ?_, closed⟩
      rw [Decoder.objectBody, entries]
      rw [List.append_assoc] at all ⊢
      simp only [bind, Except.bind, found, name, String.ofList_toList, read, all]

/-! Records with other members beside their fields. -/

section Record

variable {α β : Type} {room : Nat} {style : RecordStyle}

theorem assign_of_not_mem {r : Record Decoder α} {key : String} (slots : r.Slots)
    (stranger : key ∉ r.names) : assign room r key slots = none := by
  induction r with
  | of make => rfl
  | field front name read fallback ih =>
    simp only [Record.names, List.mem_append, List.mem_singleton, not_or] at stranger
    rw [assign, if_neg stranger.2, ih slots.1 stranger.1]
    rfl

/-- Members that are no fields are passed over where a record may have them. -/
theorem moves_strangers {r : Record Decoder α} (lax : style.strict = false) (slots : r.Slots)
    {es : List (String × List Char)}
    (strangers : ∀ e ∈ es, e.1 ∉ r.names ∧ Written .value e.2) :
    Moves (fieldEntry style r room) slots es slots := by
  induction es with
  | nil => exact .nil
  | cons e es ih =>
    obtain ⟨⟨stranger, written⟩, later⟩ := List.forall_mem_cons.mp strangers
    refine .cons ?_ (ih later)
    intro middle before rest second front ends
    rw [fieldEntry, assign_of_not_mem slots stranger]
    simp [lax, colon_blanks second, written.skipValue front ends, bind, Except.bind]

/-- The last field of a record is read where it has not been read before. -/
theorem fieldEntry_last {front : Record Decoder (β → α)} {name : String} {read : Decoder β}
    {fallback : Option β} {slots : front.Slots} {v : β} {middle cs rest : List Char}
    (blank : Blanks middle) (found : read room cs = .ok (v, rest)) :
    fieldEntry style (.field front name read fallback) room name (slots, none)
      (middle ++ ':' :: cs) = .ok ((slots, some v), rest) := by
  unfold fieldEntry
  simp only [assign, if_true, colon_blanks blank, found, bind, Except.bind]

theorem optional_text {s : String} {written blanks : List Char} (spells : Spells s.toList written)
    (blank : Blanks blanks) (rest : List Char) :
    Decoder.optional Decoder.text room (blanks ++ ('"' :: (written ++ ['"']) ++ rest)) =
      .ok (some s, rest) := by
  have layout : blanks ++ ('"' :: (written ++ ['"']) ++ rest) =
      blanks ++ '"' :: (written ++ '"' :: rest) := by simp
  have read : textFor "a string" room (blanks ++ '"' :: (written ++ '"' :: rest)) =
      .ok (s, rest) := by
    rw [textFor_blanks blank, textFor, skipSpace_cons _ (by decide)]
    simp [spells.stringBody, Except.map]
  rw [layout, Decoder.optional, skipSpace_blanks blank, skipSpace_cons _ (by decide)]
  simp [Decoder.map, Decoder.text, read, Except.map]

end Record

end Admission.Json
