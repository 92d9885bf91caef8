import Admission.Proofs.Json.Lexeme
import Admission.Proofs.Table
/-!
Lists and objects as texts. Each element is read from its own text, whatever follows it in the
container; the container is then read as a whole. An object is read into a state, one step for an
entry.
-/

namespace Admission.Json

open Decoder

variable {α σ : Type}

/-- A text that no white space and no end of a list stands in front of. -/
def Opens (text : List Char) : Prop :=
  ∃ c tail, text = c :: tail ∧ c ≠ ' ' ∧ c ≠ '\n' ∧ c ≠ '\t' ∧ c ≠ '\r' ∧ c ≠ ']'

theorem skipSpace_cons {c : Char} (cs : List Char)
    (visible : c ≠ ' ' ∧ c ≠ '\n' ∧ c ≠ '\t' ∧ c ≠ '\r') : skipSpace (c :: cs) = c :: cs := by
  simp [skipSpace, visible]

theorem Opens.skipSpace {text : List Char} (opens : Opens text) (rest : List Char) :
    skipSpace (text ++ rest) = text ++ rest := by
  obtain ⟨c, tail, same, blank, feed, tab, back, _⟩ := opens
  rw [same, List.cons_append, skipSpace_cons _ ⟨blank, feed, tab, back⟩]

/-- What an element reads from its own text and leaves behind it. -/
def Takes (item : List Char → Except Fault (α × List Char)) (text : List Char) (v : α) : Prop :=
  ∀ rest, Delimited rest → item (text ++ rest) = .ok (v, rest)

def Reads (d : Decoder α) (room : Nat) (text : List Char) (v : α) : Prop := Takes (d room) text v

theorem Reads.map {β : Type} {d : Decoder α} {room : Nat} {text : List Char} {v : α}
    (reads : Reads d room text v) (f : α → β) : Reads (d.map f) room text (f v) := by
  intro rest ends
  rw [Decoder.map, reads rest ends]
  rfl

/-! Lists. -/

def laterItems : List (List Char) → List Char
  | [] => [']']
  | x :: xs => ',' :: (x ++ laterItems xs)

def itemsText : List (List Char) → List Char
  | [] => [']']
  | x :: xs => x ++ laterItems xs

theorem laterItems_delimited (xs : List (List Char)) (rest : List Char) :
    Delimited (laterItems xs ++ rest) := by
  cases xs <;> simp [laterItems, Delimited]

theorem length_le_laterItems (xs : List (List Char)) : xs.length ≤ (laterItems xs).length := by
  induction xs with
  | nil => simp
  | cons x xs ih => simp only [laterItems, List.length_cons, List.length_append]; omega

theorem closeList_bracket (rest : List Char) : closeList (']' :: rest) = .ok rest := by
  simp [closeList, skipSpace]

theorem nextItem_bracket (first : Bool) (rest : List Char) :
    nextItem first (']' :: rest) = .ok none := by
  simp [nextItem, skipSpace]

theorem nextItem_first {text : List Char} (opens : Opens text) (rest : List Char) :
    nextItem true (text ++ rest) = .ok (some (text ++ rest)) := by
  unfold nextItem
  rw [opens.skipSpace]
  obtain ⟨c, tail, same, _, _, _, _, last⟩ := opens
  subst same
  simp [last]

theorem nextItem_comma {text : List Char} (opens : Opens text) (rest : List Char) :
    nextItem false (',' :: (text ++ rest)) = .ok (some (text ++ rest)) := by
  unfold nextItem
  rw [skipSpace_cons _ (by decide)]
  simp only [opens.skipSpace]
  obtain ⟨c, tail, same, _, _, _, _, last⟩ := opens
  subst same
  simp [last]

variable {item : List Char → Except Fault (α × List Char)} {text : α → List Char}

theorem items_later (xs : List α) (fuel : Nat) (rest : List Char) (enough : xs.length < fuel)
    (opens : ∀ x ∈ xs, Opens (text x)) (takes : ∀ x ∈ xs, Takes item (text x) x) :
    items item fuel false (laterItems (xs.map text) ++ rest) = .ok (xs, ']' :: rest) := by
  induction xs generalizing fuel with
  | nil =>
    obtain ⟨fuel, rfl⟩ := Nat.exists_eq_succ_of_ne_zero (Nat.ne_of_gt enough)
    simp only [List.map_nil, laterItems, List.singleton_append, items, nextItem_bracket]
    rfl
  | cons x xs ih =>
    obtain ⟨fuel, rfl⟩ := Nat.exists_eq_succ_of_ne_zero (Nat.ne_of_gt (Nat.zero_lt_of_lt enough))
    have head := takes x (by simp) _ (laterItems_delimited (xs.map text) rest)
    have tail := ih fuel (by simpa using enough) (fun y member => opens y (by simp [member]))
      (fun y member => takes y (by simp [member]))
    simp only [List.map_cons, laterItems, List.cons_append, List.append_assoc, items,
      nextItem_comma (opens x (by simp)), bind, Except.bind, head, tail]

theorem listBody_items (xs : List α) (rest : List Char) (opens : ∀ x ∈ xs, Opens (text x))
    (takes : ∀ x ∈ xs, Takes item (text x) x) :
    listBody item (itemsText (xs.map text) ++ rest) = .ok (xs, rest) := by
  have read : items item ((itemsText (xs.map text) ++ rest).length + 1) true
      (itemsText (xs.map text) ++ rest) = .ok (xs, ']' :: rest) := by
    cases xs with
    | nil =>
      simp only [List.map_nil, itemsText, List.singleton_append, items, nextItem_bracket]
      rfl
    | cons x xs =>
      have head := takes x (by simp) _ (laterItems_delimited (xs.map text) rest)
      have enough : xs.length < (itemsText ((x :: xs).map text) ++ rest).length := by
        have later := length_le_laterItems (xs.map text)
        obtain ⟨c, tail, same, _⟩ := opens x (by simp)
        simp only [List.length_map] at later
        simp only [List.map_cons, itemsText, same, List.length_append, List.length_cons]
        omega
      have tail := items_later xs _ rest enough (fun y member => opens y (by simp [member]))
        (fun y member => takes y (by simp [member]))
      simp only [items]
      simp only [List.map_cons, itemsText, List.append_assoc] at tail ⊢
      simp only [nextItem_first (opens x (by simp)), bind, Except.bind, head, tail]
  simp only [listBody, read, bind, Except.bind, closeList_bracket]

theorem reads_list {d : Decoder α} {room : Nat} (xs : List α) (opens : ∀ x ∈ xs, Opens (text x))
    (reads : ∀ x ∈ xs, Reads d room (text x) x) :
    Reads (Decoder.list d) (room + 1) ('[' :: itemsText (xs.map text)) xs := by
  intro rest _
  rw [Decoder.list, List.cons_append, skipSpace_cons _ (by decide)]
  exact listBody_items xs rest opens reads

/-! Objects. -/

def laterEntries : List (String × List Char) → List Char
  | [] => ['\x7d']
  | (k, t) :: more => ',' :: (textChars k ++ ':' :: (t ++ laterEntries more))

def entriesText : List (String × List Char) → List Char
  | [] => ['\x7d']
  | (k, t) :: more => textChars k ++ ':' :: (t ++ laterEntries more)

/-- One entry after the other takes a state to the next one. -/
inductive Steps (entry : String → σ → List Char → Except Fault (σ × List Char)) :
    σ → List (String × List Char) → σ → Prop where
  | nil {state : σ} : Steps entry state [] state
  | cons {state next last : σ} {key : String} {text : List Char}
      {more : List (String × List Char)}
      (head : Takes (entry key state) (':' :: text) next) (tail : Steps entry next more last) :
      Steps entry state ((key, text) :: more) last

theorem laterEntries_delimited (es : List (String × List Char)) (rest : List Char) :
    Delimited (laterEntries es ++ rest) := by
  cases es <;> simp [laterEntries, Delimited]

theorem length_le_laterEntries (es : List (String × List Char)) :
    es.length ≤ (laterEntries es).length := by
  induction es with
  | nil => simp
  | cons e es ih => simp only [laterEntries, List.length_cons, List.length_append]; omega

theorem closeObject_brace (rest : List Char) : closeObject ('\x7d' :: rest) = .ok rest := by
  simp [closeObject, skipSpace]

theorem nextKey_brace (first : Bool) (rest : List Char) :
    nextKey first ('\x7d' :: rest) = .ok none := by
  simp [nextKey, skipSpace]

theorem nextKey_first (key : String) (rest : List Char) :
    nextKey true (textChars key ++ rest) =
      .ok (some (key.toList.flatMap escapeChar ++ '"' :: rest)) := by
  simp [nextKey, textChars, skipSpace]

theorem nextKey_comma (key : String) (rest : List Char) :
    nextKey false (',' :: (textChars key ++ rest)) =
      .ok (some (key.toList.flatMap escapeChar ++ '"' :: rest)) := by
  simp [nextKey, textChars, skipSpace]

theorem colon_cons (rest : List Char) : colon (':' :: rest) = .ok rest := by
  simp [colon, skipSpace]

variable {entry : String → σ → List Char → Except Fault (σ × List Char)}

theorem entries_later {state last : σ} {es : List (String × List Char)}
    (steps : Steps entry state es last) (fuel : Nat) (rest : List Char)
    (enough : es.length < fuel) :
    entries entry fuel false state (laterEntries es ++ rest) = .ok (last, '\x7d' :: rest) := by
  induction steps generalizing fuel with
  | nil =>
    obtain ⟨fuel, rfl⟩ := Nat.exists_eq_succ_of_ne_zero (Nat.ne_of_gt enough)
    simp only [laterEntries, List.singleton_append, entries, nextKey_brace]
    rfl
  | @cons state next last key text more head _ ih =>
    obtain ⟨fuel, rfl⟩ := Nat.exists_eq_succ_of_ne_zero (Nat.ne_of_gt (Nat.zero_lt_of_lt enough))
    have read := head _ (laterEntries_delimited more rest)
    have later := ih fuel (by simpa using enough)
    simp only [laterEntries, List.cons_append, List.append_assoc, entries, nextKey_comma,
      stringBody_flatMap, String.ofList_toList, bind, Except.bind] at read ⊢
    rw [read]
    exact later

theorem objectBody_steps {start last : σ} {es : List (String × List Char)}
    (steps : Steps entry start es last) (rest : List Char) :
    objectBody entry start (entriesText es ++ rest) = .ok (last, '\x7d' :: rest) := by
  unfold objectBody
  cases steps with
  | nil =>
    simp only [entriesText, List.singleton_append, entries, nextKey_brace]
    rfl
  | @cons _ next _ key text more head tail =>
    have read := head _ (laterEntries_delimited more rest)
    have enough : more.length < (entriesText ((key, text) :: more) ++ rest).length := by
      have later := length_le_laterEntries more
      simp only [entriesText, List.length_append, List.length_cons]
      omega
    have later := entries_later tail _ rest enough
    simp only [entries]
    simp only [entriesText, List.cons_append, List.append_assoc, nextKey_first,
      stringBody_flatMap, String.ofList_toList, bind, Except.bind] at read later ⊢
    rw [read]
    exact later

/-! Tables. -/

variable {content : α → List Char} {read : List Char → Except Fault (α × List Char)}

/-- Ascending keys are put behind those that are there already. -/
theorem steps_table (before after : Table String α)
    (ascending : (before ++ after).Ascending Text.order)
    (takes : ∀ e ∈ after, Takes read (content e.2) e.2) :
    Steps (tableEntry read) before (after.map fun e => (e.1, content e.2)) (before ++ after) := by
  induction after generalizing before with
  | nil =>
    rw [List.append_nil]
    exact .nil
  | cons e after ih =>
    obtain ⟨k, v⟩ := e
    have moved : (before ++ [(k, v)]) ++ after = before ++ (k, v) :: after :=
      (List.append_cons before (k, v) after).symm
    have above : ∀ e ∈ before, Text.order e.1 k = .lt := fun e member =>
      (List.pairwise_append.mp ascending).2.2 e member (k, v) (by simp)
    have later := ih (before ++ [(k, v)]) (moved ▸ ascending)
      (fun e member => takes e (List.mem_cons_of_mem _ member))
    have head : Takes (tableEntry read k before) (':' :: content v) (before ++ [(k, v)]) := by
      intro rest ends
      have value := takes (k, v) (by simp) rest ends
      simp only [tableEntry, List.cons_append, colon_cons, bind, Except.bind, value,
        Table.insert_above above]
    exact .cons head (moved ▸ later)

theorem tableBody_entries (t : Table String α) (rest : List Char)
    (ascending : t.Ascending Text.order) (takes : ∀ e ∈ t, Takes read (content e.2) e.2) :
    tableBody read (entriesText (t.map fun e => (e.1, content e.2)) ++ rest) = .ok (t, rest) := by
  have body := objectBody_steps (steps_table [] t ascending takes) rest
  rw [List.nil_append] at body
  simp only [tableBody, body, bind, Except.bind, closeObject_brace]

theorem reads_table {d : Decoder α} {room : Nat} (t : Table String α)
    (ascending : t.Ascending Text.order) (reads : ∀ e ∈ t, Reads d room (content e.2) e.2) :
    Reads (Decoder.table d) (room + 1)
      ('\x7b' :: entriesText (t.map fun e => (e.1, content e.2))) t := by
  intro rest _
  rw [Decoder.table, List.cons_append, skipSpace_cons _ (by decide)]
  exact tableBody_entries t rest ascending reads

end Admission.Json
