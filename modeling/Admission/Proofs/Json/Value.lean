import Admission.Proofs.Json.Container
/-!
Values that their own text gives back: integers of a word, keys in order, no more nested containers
than there is room for, and no double.
-/

namespace Admission.Json

open Decoder

/-- A value that comes back from its text where `room` more containers may be opened. -/
inductive Exact : Nat → Json → Prop where
  | null {room : Nat} : Exact room .null
  | bool {room : Nat} (b : Bool) : Exact room (.bool b)
  | int {room : Nat} {n : Int} (low : -(wordLimit / 2 : Nat) ≤ n) (high : n < wordLimit) :
      Exact room (.int n)
  | text {room : Nat} (s : String) : Exact room (.text s)
  | list {room : Nat} {items : List Json} (each : ∀ x ∈ items, Exact room x) :
      Exact (room + 1) (.list items)
  | object {room : Nat} {entries : List (String × Json)}
      (ascending : Table.Ascending Text.order entries) (each : ∀ e ∈ entries, Exact room e.2) :
      Exact (room + 1) (.object entries)

/-! The text of a container in terms of the texts of its elements. -/

theorem moreItems_eq (xs : List Json) : moreItems xs = laterItems (xs.map chars) := by
  induction xs with
  | nil => simp [moreItems, laterItems]
  | cons x xs ih => simp [moreItems, laterItems, ih]

theorem chars_list (xs : List Json) : chars (.list xs) = '[' :: itemsText (xs.map chars) := by
  cases xs with
  | nil => simp [chars, itemsText]
  | cons x xs => simp [chars, itemsText, moreItems_eq]

theorem moreEntries_eq (es : List (String × Json)) :
    moreEntries es = laterEntries (es.map fun e => (e.1, chars e.2)) := by
  induction es with
  | nil => simp [moreEntries, laterEntries]
  | cons e es ih => simp [moreEntries, laterEntries, ih]

theorem chars_object (es : List (String × Json)) :
    chars (.object es) = '\x7b' :: entriesText (es.map fun e => (e.1, chars e.2)) := by
  cases es with
  | nil => simp [chars, entriesText]
  | cons e es => simp [chars, entriesText, moreEntries_eq]

/-! Leaves. -/

theorem toDigits_front (n : Nat) :
    ∃ c ds, Nat.toDigits 10 n = c :: ds ∧ c.isDigit = true := by
  obtain ⟨c, ds, front⟩ := List.exists_cons_of_ne_nil (Nat.toDigits_ne_nil (n := n) (b := 10))
  exact ⟨c, ds, front, Text.digits_toDigits n c (by simp [front])⟩

/-- The marks that a value may open with other than a digit. -/
theorem ne_of_isDigit {c d : Char} (decimal : c.isDigit = true) (other : d.isDigit = false) :
    c ≠ d := by
  rintro rfl
  rw [decimal] at other
  cases other

theorem opens_of_isDigit {c : Char} (cs : List Char) (decimal : c.isDigit = true) :
    Opens (c :: cs) :=
  ⟨c, cs, rfl, ne_of_isDigit decimal rfl, ne_of_isDigit decimal rfl, ne_of_isDigit decimal rfl,
    ne_of_isDigit decimal rfl, ne_of_isDigit decimal rfl⟩

theorem opens_intChars (n : Int) : Opens (intChars n) := by
  unfold intChars
  split
  · exact ⟨'-', _, rfl, by decide⟩
  · obtain ⟨c, ds, front, decimal⟩ := toDigits_front n.natAbs
    exact front ▸ opens_of_isDigit ds decimal

theorem opens_textChars (s : String) : Opens (textChars s) := ⟨'"', _, rfl, by decide⟩

theorem Exact.opens {room : Nat} {v : Json} (exact : Exact room v) : Opens v.chars := by
  cases exact with
  | null => exact ⟨'n', _, by rw [chars], by decide⟩
  | bool b =>
    cases b with
    | false => exact ⟨'f', _, by rw [chars], by decide⟩
    | true => exact ⟨'t', _, by rw [chars], by decide⟩
  | int => rw [chars]; exact opens_intChars _
  | text s => rw [chars]; exact opens_textChars s
  | list => exact ⟨'[', _, chars_list _, by decide⟩
  | object => exact ⟨'\x7b', _, chars_object _, by decide⟩

theorem reads_int {room : Nat} {n : Int} (low : -(wordLimit / 2 : Nat) ≤ n)
    (high : n < wordLimit) : Reads json room (intChars n) (.int n) := by
  have limit : wordLimit = 18446744073709551616 := rfl
  intro rest ends
  unfold intChars
  split
  · rename_i negative
    have read := number_toDigits true n.natAbs ends (by omega)
    have whole : wholeNumber true n.natAbs = .int n := by
      have signed : -(n.natAbs : Int) = n := by omega
      simp only [wholeNumber, Bool.not_true, Bool.false_eq_true, if_false, signed]
      exact if_neg (by omega)
    rw [json.eq_def, List.cons_append, skipSpace_cons _ (by decide)]
    simp [read, whole, Except.map, ofNumeral]
  · rename_i positive
    have read := number_toDigits false n.natAbs ends (by omega)
    have whole : wholeNumber false n.natAbs = .int n := by
      simp only [wholeNumber, Bool.not_false, if_true]
      congr 1
      omega
    obtain ⟨c, ds, front, decimal⟩ := toDigits_front n.natAbs
    have other (d : Char) (mark : d.isDigit = false) : c ≠ d := ne_of_isDigit decimal mark
    rw [front, List.cons_append] at read ⊢
    rw [json.eq_def, skipSpace_cons _ ⟨other ' ' rfl, other '\n' rfl, other '\t' rfl,
      other '\r' rfl⟩]
    simp [other 'n' rfl, other 't' rfl, other 'f' rfl, other '-' rfl,
      Text.isDigit_iff.mpr decimal, read, whole, Except.map, ofNumeral]

/-- The closing quote ends a text, whatever stands behind it. -/
theorem json_textChars (room : Nat) (s : String) (rest : List Char) :
    json room (textChars s ++ rest) = .ok (.text s, rest) := by
  rw [json.eq_def, textChars, List.cons_append, skipSpace_cons _ (by decide),
    List.append_assoc, List.singleton_append]
  simp [Text.isDigit_eq_false (c := '"') rfl, stringBody_flatMap, Except.map]

/-- Whatever follows a value in its container, the value is read as it was. -/
theorem Exact.reads {room : Nat} {v : Json} (exact : Exact room v) :
    Reads json room v.chars v := by
  induction exact with
  | null =>
    intro rest _
    rw [json.eq_def, chars, List.cons_append, skipSpace_cons _ (by decide)]
    simp [keyword, Except.map]
  | bool b =>
    intro rest _
    cases b with
    | false =>
      rw [json.eq_def, chars, List.cons_append, skipSpace_cons _ (by decide)]
      simp [keyword, Except.map]
    | true =>
      rw [json.eq_def, chars, List.cons_append, skipSpace_cons _ (by decide)]
      simp [keyword, Except.map]
  | int low high =>
    rw [chars]
    exact reads_int low high
  | text s =>
    intro rest _
    rw [chars]
    exact json_textChars _ s rest
  | @list room items each ih =>
    intro rest _
    have body := listBody_items items rest (fun x member => (each x member).opens) ih
    rw [json.eq_def, chars_list, List.cons_append, skipSpace_cons _ (by decide)]
    simp [Text.isDigit_eq_false (c := '[') rfl, body, Except.map]
  | @object room entries ascending each ih =>
    intro rest _
    have body := tableBody_entries entries rest ascending ih
    rw [json.eq_def, chars_object, List.cons_append, skipSpace_cons _ (by decide)]
    simp [Text.isDigit_eq_false (c := '\x7b') rfl, body, Except.map]

theorem opens_object (entries : List (String × Json)) : Opens (chars (.object entries)) :=
  ⟨'\x7b', _, chars_object entries, by decide⟩

/-! Typed values. -/

variable {α : Type} {room : Nat}

theorem textFor_textChars (expected : String) (room : Nat) (s : String) (rest : List Char) :
    textFor expected room (textChars s ++ rest) = .ok (s, rest) := by
  rw [textFor, textChars, List.cons_append, skipSpace_cons _ (by decide), List.append_assoc,
    List.singleton_append]
  simp [stringBody_flatMap, Except.map]

theorem reads_textFor (expected s : String) :
    Reads (textFor expected) room (chars (.text s)) s := by
  intro rest _
  rw [chars]
  exact textFor_textChars expected room s rest

theorem reads_text (s : String) : Reads Decoder.text room (chars (.text s)) s :=
  reads_textFor "a string" s

theorem reads_parsed {expected s : String} {parse : String → Except String α} {v : α}
    (parses : parse s = .ok v) : Reads (parsed expected parse) room (chars (.text s)) v := by
  intro rest ends
  simp only [parsed, reads_textFor expected s rest ends, bind, Except.bind, parses]

theorem reads_natural {expected : String} {limit n : Nat} (small : limit ≤ wordLimit)
    (below : n < limit) : Reads (natural expected limit) room (chars (.int n)) n := by
  intro rest ends
  have read := number_toDigits false n ends (Nat.lt_of_lt_of_le below small)
  obtain ⟨c, ds, front, decimal⟩ := toDigits_front n
  have opens := (opens_of_isDigit ds decimal).skipSpace rest
  have unsigned : c ≠ '-' := ne_of_isDigit decimal rfl
  have written : chars (.int n) = c :: ds := by
    rw [chars, intChars, if_neg (by omega), Int.natAbs_natCast, front]
  rw [front] at read
  rw [written, natural, opens, List.cons_append]
  rw [List.cons_append] at read
  simp [unsigned, Text.isDigit_iff.mpr decimal, read, wholeNumber, below]

/-- A text or an object is not mistaken for a null. -/
theorem reads_optional {d : Decoder α} {text tail : List Char} {c : Char} {v : α}
    (front : text = c :: tail) (mark : c = '"' ∨ c = '\x7b') (reads : Reads d room text v) :
    Reads (Decoder.optional d) room text (some v) := by
  intro rest ends
  have value := reads rest ends
  rw [front, List.cons_append] at value ⊢
  have given : c ≠ 'n' := by rcases mark with same | same <;> rw [same] <;> decide
  have visible : c ≠ ' ' ∧ c ≠ '\n' ∧ c ≠ '\t' ∧ c ≠ '\r' := by
    rcases mark with same | same <;> rw [same] <;> decide
  rw [Decoder.optional, skipSpace_cons _ visible]
  simp [given, Decoder.map, value, Except.map]

/-- Elements that are all written as objects. -/
theorem reads_objects {d : Decoder α} {entries : α → List (String × Json)} {xs : List α}
    (reads : ∀ x ∈ xs, Reads d room (chars (.object (entries x))) x) :
    Reads (Decoder.list d) (room + 1) (chars (.list (xs.map fun x => .object (entries x)))) xs := by
  rw [chars_list, List.map_map]
  exact reads_list xs (fun x _ => opens_object (entries x)) reads

theorem reads_choice {variants : List (String × α)} {name : String} {v : α}
    (found : variants.lookup name = some v) :
    Reads (choice variants) room (chars (.text name)) v := by
  intro rest ends
  have read : textFor "variant identifier" room (chars (.text name) ++ rest) = .ok (name, rest) :=
    reads_textFor "variant identifier" name rest ends
  rw [chars] at read ⊢
  rw [choice, (opens_textChars name).skipSpace]
  rw [textChars, List.cons_append] at read ⊢
  simp only [named, if_true, read, found, bind, Except.bind]

theorem Decoder.run_write {d : Decoder α} {value : Json} {v : α}
    (reads : Reads d maxDepth value.chars v) : d.run value.write = .ok v := by
  have read := reads [] trivial
  rw [List.append_nil] at read
  simp only [run, write, String.toList_ofList, read, bind, Except.bind, skipSpace]

end Admission.Json
