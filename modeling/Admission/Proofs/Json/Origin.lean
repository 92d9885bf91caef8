import Admission.Json.Record
import Admission.Proofs.Except
import Admission.Proofs.Json.Value
/-!
Where values that were read come from. What stands in a container was given by the reader of its
elements, so a value that was read is exact as soon as it has no double.
-/

namespace Admission.Json

open Decoder

variable {α σ : Type}

/-- `v` is something that the reader gives for some text. -/
def Yields (item : List Char → Except Fault (α × List Char)) (v : α) : Prop :=
  ∃ cs rest, item cs = .ok (v, rest)

theorem items_yield {item : List Char → Except Fault (α × List Char)} {fuel : Nat} {first : Bool}
    {cs rest : List Char} {xs : List α} (read : items item fuel first cs = .ok (xs, rest)) :
    ∀ x ∈ xs, Yields item x := by
  induction fuel generalizing first cs xs rest with
  | zero => cases read
  | succ fuel ih =>
    obtain ⟨next, _, read⟩ := of_bind_ok read
    cases next with
    | none =>
      cases read
      intro x member
      cases member
    | some start =>
      obtain ⟨⟨head, middle⟩, front, read⟩ := of_bind_ok read
      obtain ⟨⟨tail, last⟩, later, read⟩ := of_bind_ok read
      cases read
      intro x member
      rcases List.mem_cons.mp member with same | member
      · exact ⟨start, middle, same ▸ front⟩
      · exact ih later x member

theorem listBody_yield {item : List Char → Except Fault (α × List Char)} {cs rest : List Char}
    {xs : List α} (read : listBody item cs = .ok (xs, rest)) : ∀ x ∈ xs, Yields item x := by
  obtain ⟨⟨_, last⟩, body, read⟩ := of_bind_ok read
  obtain ⟨_, _, read⟩ := of_bind_ok read
  cases read
  exact items_yield body

/-- What every entry preserves holds when all of them are read. -/
theorem entries_preserve {entry : String → σ → List Char → Except Fault (σ × List Char)}
    (P : σ → Prop)
    (step : ∀ key state next cs rest, P state → entry key state cs = .ok (next, rest) → P next)
    {fuel : Nat} {first : Bool} {state last : σ} {cs rest : List Char} (holds : P state)
    (read : entries entry fuel first state cs = .ok (last, rest)) : P last := by
  induction fuel generalizing first state cs rest with
  | zero => cases read
  | succ fuel ih =>
    obtain ⟨next, _, read⟩ := of_bind_ok read
    cases next with
    | none =>
      cases read
      exact holds
    | some start =>
      obtain ⟨⟨key, middle⟩, _, read⟩ := of_bind_ok read
      obtain ⟨⟨after, later⟩, done, read⟩ := of_bind_ok read
      exact ih (step _ _ _ _ _ holds done) read

theorem tableBody_yield {item : List Char → Except Fault (α × List Char)} {cs rest : List Char}
    {t : Table String α} (read : tableBody item cs = .ok (t, rest)) :
    t.Ascending Text.order ∧ ∀ e ∈ t, Yields item e.2 := by
  obtain ⟨⟨_, last⟩, body, read⟩ := of_bind_ok read
  obtain ⟨_, _, read⟩ := of_bind_ok read
  cases read
  refine entries_preserve (fun t => t.Ascending Text.order ∧ ∀ e ∈ t, Yields item e.2) ?_
    ⟨List.Pairwise.nil, by simp⟩ body
  intro key state next cs rest ⟨ascending, each⟩ done
  obtain ⟨start, _, done⟩ := of_bind_ok done
  obtain ⟨⟨v, last⟩, value, done⟩ := of_bind_ok done
  cases done
  refine ⟨Table.insert_ascending ascending, ?_⟩
  intro e member
  rcases (Table.mem_insert member).2 with same | old
  · exact ⟨start, rest, same ▸ value⟩
  · exact each e old

/-! Typed values. -/

theorem yields_list {d : Decoder α} {room : Nat} {xs : List α}
    (yields : Yields (Decoder.list d (room + 1)) xs) : ∀ x ∈ xs, Yields (d room) x := by
  obtain ⟨cs, rest, read⟩ := yields
  unfold Decoder.list at read
  split at read
  · cases read
  split at read
  · exact listBody_yield read
  · cases read

theorem yields_table {d : Decoder α} {room : Nat} {t : Table String α}
    (yields : Yields (Decoder.table d (room + 1)) t) :
    t.Ascending Text.order ∧ ∀ e ∈ t, Yields (d room) e.2 := by
  obtain ⟨cs, rest, read⟩ := yields
  unfold Decoder.table at read
  split at read
  · cases read
  split at read
  · exact tableBody_yield read
  · cases read

theorem yields_optional {d : Decoder α} {room : Nat} {v : α}
    (yields : Yields (Decoder.optional d room) (some v)) : Yields (d room) v := by
  obtain ⟨cs, rest, read⟩ := yields
  have given (read : (d.map some) room cs = .ok (some v, rest)) : Yields (d room) v := by
    obtain ⟨⟨w, last⟩, value, same⟩ := of_map_ok read
    cases same
    exact ⟨cs, _, value⟩
  unfold Decoder.optional at read
  split at read
  · split at read
    · obtain ⟨_, _, same⟩ := of_map_ok read
      cases same
    · exact given read
  · exact given read

theorem yields_parsed {expected : String} {parse : String → Except String α} {room : Nat} {v : α}
    (yields : Yields (parsed expected parse room) v) : ∃ s, parse s = .ok v := by
  obtain ⟨cs, rest, read⟩ := yields
  obtain ⟨⟨s, last⟩, _, read⟩ := of_bind_ok read
  simp only at read
  split at read
  · rename_i parses
    cases read
    exact ⟨s, parses⟩
  · cases read

theorem yields_natural {expected : String} {limit room n : Nat}
    (yields : Yields (natural expected limit room) n) : n < limit := by
  obtain ⟨cs, rest, read⟩ := yields
  unfold natural at read
  simp only at read
  split at read
  · cases read
  split at read
  · split at read
    · cases read
    · cases read
    · split at read
      · cases read
        omega
      · cases read
  split at read
  · split at read
    · cases read
    · cases read
    · split at read
      · cases read
        omega
      · cases read
  · cases read

theorem Decoder.yields_of_run {d : Decoder α} {s : String} {v : α} (ran : d.run s = .ok v) :
    Yields (d maxDepth) v := by
  obtain ⟨⟨w, rest⟩, read, ended⟩ := of_bind_ok ran
  simp only at ended
  split at ended
  · cases ended
    exact ⟨s.toList, rest, read⟩
  · cases ended

/-! Values of any kind. -/

/-- A value without a double in it. -/
inductive Floatless : Json → Prop where
  | null : Floatless .null
  | bool (b : Bool) : Floatless (.bool b)
  | int (n : Int) : Floatless (.int n)
  | text (s : String) : Floatless (.text s)
  | list {items : List Json} (each : ∀ x ∈ items, Floatless x) : Floatless (.list items)
  | object {entries : List (String × Json)} (each : ∀ e ∈ entries, Floatless e.2) :
      Floatless (.object entries)

theorem gather_lt (n taken : Nat) (cs : List Char) (fits : n < wordLimit) :
    (gather n taken cs).1 < wordLimit := by
  induction cs generalizing n taken with
  | nil => exact fits
  | cons c cs ih =>
    rw [gather]
    split
    · exact fits
    · split
      · exact ih _ _ ‹_›
      · exact fits

theorem wholeNumber_int {negative : Bool} {n : Nat} {m : Int}
    (whole : wholeNumber negative n = .int m) (fits : n < wordLimit) :
    -(wordLimit / 2 : Nat) ≤ m ∧ m < wordLimit := by
  unfold wholeNumber at whole
  split at whole
  · cases whole
    omega
  · split at whole
    · cases whole
    · cases whole
      omega

theorem afterWhole_int {negative : Bool} {n lost : Nat} {m : Int} {cs rest : List Char}
    (fits : n < wordLimit) (read : afterWhole negative n lost cs = .ok (.int m, rest)) :
    -(wordLimit / 2 : Nat) ≤ m ∧ m < wordLimit := by
  have float {x : Except Fault (Float × List Char)} : asFloat x ≠ .ok (.int m, rest) := by
    intro same
    obtain ⟨v, _, same⟩ := of_map_ok same
    cases same
  cases cs with
  | nil =>
    rw [afterWhole] at read
    split at read
    · exact wholeNumber_int (congrArg Prod.fst (Except.ok.inj read)) fits
    · exact absurd read float
  | cons c cs =>
    rw [afterWhole] at read
    split at read
    · exact absurd read float
    split at read
    · exact absurd read float
    split at read
    · exact wholeNumber_int (congrArg Prod.fst (Except.ok.inj read)) fits
    · exact absurd read float

theorem number_int {negative : Bool} {m : Int} {cs rest : List Char}
    (read : number negative cs = .ok (.int m, rest)) :
    -(wordLimit / 2 : Nat) ≤ m ∧ m < wordLimit := by
  have positive : 0 < wordLimit := by decide
  cases cs with
  | nil => cases read
  | cons c cs =>
    simp only [number] at read
    split at read
    · cases read
    · split at read
      · split at read
        · cases read
        · exact afterWhole_int positive read
      · exact afterWhole_int positive read
    · rename_i d _ value
      have small : d < wordLimit := Nat.lt_of_lt_of_le (Text.digit_lt value) (by decide)
      exact afterWhole_int (gather_lt d 0 cs small) read

/-- A value that was read fits a text, unless it has a double. -/
theorem exact_of_json {room : Nat} {cs rest : List Char} {v : Json}
    (read : json room cs = .ok (v, rest)) (floatless : Floatless v) : Exact room v := by
  induction room using Nat.strongRecOn generalizing cs rest v with
  | ind room ih =>
    have numeral {r : Except Fault (Numeral × List Char)}
        (bounds : ∀ m rest, r = .ok (.int m, rest) → -(wordLimit / 2 : Nat) ≤ m ∧ m < wordLimit)
        (read : (r.map fun r => (ofNumeral r.1, r.2)) = .ok (v, rest)) : Exact room v := by
      obtain ⟨⟨n, last⟩, number, same⟩ := of_map_ok read
      cases same
      cases n with
      | int m => exact .int (bounds m _ number).1 (bounds m _ number).2
      | float x => cases floatless
    rw [json.eq_def] at read
    split at read
    · cases read
    split at read
    · obtain ⟨_, _, same⟩ := of_map_ok read
      cases same
      exact .null
    split at read
    · obtain ⟨_, _, same⟩ := of_map_ok read
      cases same
      exact .bool true
    split at read
    · obtain ⟨_, _, same⟩ := of_map_ok read
      cases same
      exact .bool false
    split at read
    · exact numeral (fun m rest number => number_int number) read
    split at read
    · exact numeral (fun m rest number => number_int number) read
    split at read
    · obtain ⟨_, _, same⟩ := of_map_ok read
      cases same
      exact .text _
    split at read
    · split at read
      · cases read
      · obtain ⟨⟨items, last⟩, body, same⟩ := of_map_ok read
        cases same
        cases floatless with
        | list each =>
          refine .list ?_
          intro x member
          obtain ⟨_, _, value⟩ := listBody_yield body x member
          exact ih _ (Nat.lt_succ_self _) value (each x member)
    split at read
    · split at read
      · cases read
      · obtain ⟨⟨entries, last⟩, body, same⟩ := of_map_ok read
        cases same
        obtain ⟨ascending, values⟩ := tableBody_yield body
        cases floatless with
        | object each =>
          refine .object ascending ?_
          intro e member
          obtain ⟨_, _, value⟩ := values e member
          exact ih _ (Nat.lt_succ_self _) value (each e member)
    · cases read

end Admission.Json
