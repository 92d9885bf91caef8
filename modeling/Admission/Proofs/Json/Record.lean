import Admission.Proofs.Json.Origin
import Mathlib.Data.List.Nodup
/-!
Records as objects. Entries with names of their own give the record that their fields give,
whatever the order they stand in, and a record that was read has only fields that were read.
-/

namespace Admission

namespace Record

variable {reader : Type → Type} {α : Type}

/-- What has been read of the fields called `ks`. -/
def keep (ks : List String) : {α : Type} → (r : Record reader α) → r.Slots → r.Slots
  | _, .of _, slots => slots
  | _, .field front name _ _, slots => (front.keep ks slots.1, if name ∈ ks then slots.2 else none)

theorem keep_nil (r : Record reader α) (slots : r.Slots) : r.keep [] slots = r.empty := by
  induction r with
  | of make => rfl
  | field front name read fallback ih =>
    simp only [keep, ih, List.not_mem_nil, if_false]
    rfl

theorem keep_cons_of_not_mem (r : Record reader α) (slots : r.Slots) {key : String}
    (ks : List String) (foreign : key ∉ r.names) : r.keep (key :: ks) slots = r.keep ks slots := by
  induction r with
  | of make => rfl
  | field front name read fallback ih =>
    simp only [names, List.mem_append, List.mem_singleton, not_or] at foreign
    simp only [keep, ih slots.1 foreign.1, List.mem_cons, Ne.symm foreign.2, false_or]
    rfl

end Record

namespace Json

open Decoder

variable {α : Type} {room : Nat} {es : List (String × List Char)}

/-- The fields of a record, each read from its entry or, where it has none, by its default. -/
inductive Gives (room : Nat) (es : List (String × List Char)) :
    {α : Type} → Record Decoder α → α → Prop where
  | of {α : Type} (make : α) : Gives room es (.of make) make
  | present {α β : Type} {front : Record Decoder (β → α)} {name : String} {read : Decoder β}
      {fallback : Option β} {make : β → α} {v : β} {text : List Char}
      (rest : Gives room es front make) (stands : (name, text) ∈ es)
      (reads : Reads read room text v) : Gives room es (.field front name read fallback) (make v)
  | absent {α β : Type} {front : Record Decoder (β → α)} {name : String} {read : Decoder β}
      {make : β → α} {v : β} (rest : Gives room es front make) (missing : name ∉ es.map (·.1)) :
      Gives room es (.field front name read (some v)) (make v)

/-- Each slot holds what its entry reads as. -/
def Holds (room : Nat) (es : List (String × List Char)) :
    {α : Type} → (r : Record Decoder α) → r.Slots → Prop
  | _, .of _, _ => True
  | _, .field front name read _, slots => Holds room es front slots.1 ∧
      ((slots.2 = none ∧ name ∉ es.map (·.1)) ∨
        ∃ v text, slots.2 = some v ∧ (name, text) ∈ es ∧ Reads read room text v)

theorem Gives.slots {r : Record Decoder α} {v : α} (gives : Gives room es r v) :
    ∃ slots, r.build slots = .ok v ∧ Holds room es r slots := by
  induction gives with
  | of make => exact ⟨(), rfl, trivial⟩
  | @present _ _ _ _ _ _ _ v text _ stands reads ih =>
    obtain ⟨slots, built, holds⟩ := ih
    exact ⟨(slots, some v), by simp [Record.build, built],
      holds, .inr ⟨v, text, rfl, stands, reads⟩⟩
  | absent _ missing ih =>
    obtain ⟨slots, built, holds⟩ := ih
    exact ⟨(slots, none), by simp [Record.build, built], holds, .inl ⟨rfl, missing⟩⟩

theorem keep_of_holds {r : Record Decoder α} {slots : r.Slots} {ks : List String}
    (holds : Holds room es r slots) (all : ∀ key ∈ es.map (·.1), key ∈ ks) :
    r.keep ks slots = slots := by
  induction r with
  | of make => rfl
  | field front name read fallback ih =>
    obtain ⟨front, slot⟩ := slots
    obtain ⟨holds, ⟨empty, _⟩ | ⟨v, text, _, stands, _⟩⟩ := holds
    · simp only at empty
      simp only [Record.keep, ih holds, empty, ite_self]
      rfl
    · have listed : name ∈ ks := all name (List.mem_map_of_mem stands)
      simp only [Record.keep, ih holds, listed, if_true]
      rfl

/-- The slot of an entry that has not been read yet takes what the entry reads as. -/
theorem assign_entry {r : Record Decoder α} {slots : r.Slots} {key : String} {text : List Char}
    {ks : List String} (distinct : r.names.Nodup) (once : (es.map (·.1)).Nodup)
    (holds : Holds room es r slots) (stands : (key, text) ∈ es) (known : key ∈ r.names)
    (fresh : key ∉ ks) :
    ∃ put, assign room r key (r.keep ks slots) = some put ∧
      Takes put (':' :: text) (r.keep (key :: ks) slots) := by
  induction r with
  | of make => cases known
  | field front name read fallback ih =>
    obtain ⟨first, slot⟩ := slots
    obtain ⟨holds, held⟩ := holds
    simp only [Record.names, List.nodup_append, List.mem_append, List.mem_singleton]
      at distinct known
    by_cases same : key = name
    · subst same
      have foreign : key ∉ front.names := fun member => distinct.2.2 key member key rfl rfl
      obtain ⟨_, missing⟩ | ⟨v, other, filled, entry, reads⟩ := held
      · exact absurd (List.mem_map_of_mem stands) missing
      · have same : other = text :=
          congrArg Prod.snd (List.inj_on_of_nodup_map once entry stands rfl)
        simp only [assign, Record.keep, if_true, fresh, if_false]
        refine ⟨_, rfl, ?_⟩
        intro rest ends
        have value := reads rest ends
        simp only [List.cons_append, colon_cons, bind, Except.bind, ← same, value]
        simp only at filled
        simp [Record.keep_cons_of_not_mem front first ks foreign, filled]
    · have inner : key ∈ front.names := known.resolve_right same
      obtain ⟨put, found, takes⟩ := ih distinct.1 holds inner
      simp only [assign, if_neg same, Record.keep, found]
      refine ⟨_, rfl, ?_⟩
      intro rest ends
      have value := takes rest ends
      simp only [value, bind, Except.bind, List.mem_cons, Ne.symm same, false_or]

theorem steps_fields {style : RecordStyle} {r : Record Decoder α} {slots : r.Slots}
    (distinct : r.names.Nodup) (once : (es.map (·.1)).Nodup) (holds : Holds room es r slots)
    (known : ∀ key ∈ es.map (·.1), key ∈ r.names) (ks : List String)
    (pending : List (String × List Char)) (part : ∀ e ∈ pending, e ∈ es)
    (apart : (pending.map (·.1)).Nodup) (fresh : ∀ key ∈ pending.map (·.1), key ∉ ks)
    (all : ∀ key ∈ es.map (·.1), key ∈ ks ∨ key ∈ pending.map (·.1)) :
    Steps (fieldEntry style r room) (r.keep ks slots) pending slots := by
  induction pending generalizing ks with
  | nil =>
    have done : r.keep ks slots = slots :=
      keep_of_holds holds fun key member => (all key member).resolve_right (by simp)
    rw [done]
    exact .nil
  | cons e pending ih =>
    obtain ⟨key, text⟩ := e
    have stands : (key, text) ∈ es := part _ (by simp)
    obtain ⟨outside, apart⟩ := List.nodup_cons.mp apart
    obtain ⟨put, found, takes⟩ := assign_entry distinct once holds stands
      (known key (List.mem_map_of_mem stands)) (fresh key (by simp))
    have head : Takes (fieldEntry style r room key (r.keep ks slots)) (':' :: text)
        (r.keep (key :: ks) slots) := by
      intro rest ends
      rw [fieldEntry, found]
      exact takes rest ends
    refine .cons head (ih (key :: ks) (fun e member => part e (by simp [member])) apart ?_ ?_)
    · intro other member listed
      rcases List.mem_cons.mp listed with same | listed
      · exact outside (same ▸ member)
      · exact fresh other (by simp [member]) listed
    · intro other member
      rcases all other member with old | listed
      · exact .inl (by simp [old])
      · rcases List.mem_cons.mp listed with same | later
        · exact .inl (by simp [same])
        · exact .inr later

/-- Entries with known names, each once, are read as the record they give, in any order. -/
theorem Gives.reads {style : RecordStyle} {r : Record Decoder α} {v : α}
    (gives : Gives room es r v) (distinct : r.names.Nodup) (once : (es.map (·.1)).Nodup)
    (known : ∀ key ∈ es.map (·.1), key ∈ r.names) :
    Reads (Json.record style r) (room + 1) ('\x7b' :: entriesText es) v := by
  obtain ⟨slots, built, holds⟩ := gives.slots
  have steps : Steps (fieldEntry style r room) r.empty es slots :=
    r.keep_nil slots ▸ steps_fields distinct once holds known [] es (fun _ member => member) once
      (by simp) (fun _ member => .inr member)
  intro rest _
  rw [Json.record, List.cons_append, skipSpace_cons _ (by decide)]
  simp [fromObject, objectBody_steps steps rest, built, closeObject_brace, bind, Except.bind]

/-! The entries of an object that is written. -/

def texts (entries : List (String × Json)) : List (String × List Char) :=
  entries.map fun e => (e.1, e.2.chars)

variable {entries : List (String × Json)}

theorem keys_texts : (texts entries).map (·.1) = entries.map (·.1) := by
  simp [texts]

theorem Gives.entry {β : Type} {front : Record Decoder (β → α)} {name : String} {read : Decoder β}
    {fallback : Option β} {make : β → α} {v : β} {written : Json}
    (rest : Gives room (texts entries) front make) (stands : (name, written) ∈ entries)
    (reads : Reads read room written.chars v) :
    Gives room (texts entries) (.field front name read fallback) (make v) :=
  .present rest (List.mem_map.mpr ⟨_, stands, rfl⟩) reads

/-- A field that is left out where it has no value. -/
theorem Gives.option {β : Type} {front : Record Decoder (Option β → α)} {name : String}
    {d : Decoder β} {make : Option β → α} {value : Option β} {encode : β → Json}
    (rest : Gives room (texts entries) front make)
    (stands : ∀ v, value = some v → (name, encode v) ∈ entries)
    (missing : value = none → name ∉ entries.map (·.1))
    (reads : ∀ v, value = some v → Reads (Decoder.optional d) room (encode v).chars (some v)) :
    Gives room (texts entries) (.field front name (Decoder.optional d) (some none))
      (make value) := by
  cases value with
  | none => exact .absent rest (keys_texts ▸ missing rfl)
  | some v => exact .entry rest (stands v rfl) (reads v rfl)

theorem Gives.reads_object {style : RecordStyle} {r : Record Decoder α} {v : α}
    (ks : List String) (gives : Gives room (texts entries) r v)
    (keys : entries.map (·.1) = ks) (distinct : r.names.Nodup) (once : ks.Nodup)
    (known : ∀ key ∈ ks, key ∈ r.names) :
    Reads (Json.record style r) (room + 1) (Json.object entries).chars v := by
  subst keys
  rw [chars_object]
  exact gives.reads distinct (keys_texts ▸ once) (keys_texts ▸ known)

/-! What a record that was read is made of. -/

/-- Every field was read from some text or is its default. -/
def Made (room : Nat) : {α : Type} → Record Decoder α → α → Prop
  | _, .of make, v => v = make
  | _, .field front _ read fallback, v =>
      ∃ make x, Made room front make ∧ (Yields (read room) x ∨ fallback = some x) ∧ v = make x

def Filled (room : Nat) : {α : Type} → (r : Record Decoder α) → r.Slots → Prop
  | _, .of _, _ => True
  | _, .field front _ read _, slots =>
      Filled room front slots.1 ∧ ∀ v, slots.2 = some v → Yields (read room) v

theorem filled_empty (r : Record Decoder α) : Filled room r r.empty := by
  induction r with
  | of make => trivial
  | field front name read fallback ih => exact ⟨ih, fun v same => nomatch same⟩

theorem filled_assign {r : Record Decoder α} {slots next : r.Slots} {key : String}
    {cs rest : List Char} {put : List Char → Except Fault (r.Slots × List Char)}
    (filled : Filled room r slots) (found : assign room r key slots = some put)
    (read : put cs = .ok (next, rest)) : Filled room r next := by
  induction r generalizing rest with
  | of make => cases found
  | field front name reader fallback ih =>
    rw [assign] at found
    split at found
    · cases found
      split at read
      · cases read
      · obtain ⟨start, _, read⟩ := of_bind_ok read
        obtain ⟨⟨v, last⟩, value, read⟩ := of_bind_ok read
        cases read
        exact ⟨filled.1, fun w same => Option.some.inj same ▸ ⟨start, rest, value⟩⟩
    · obtain ⟨inner, front, same⟩ := Option.map_eq_some_iff.mp found
      subst same
      obtain ⟨⟨first, last⟩, value, read⟩ := of_bind_ok read
      cases read
      exact ⟨ih filled.1 front value, filled.2⟩

theorem filled_fieldEntry {style : RecordStyle} {r : Record Decoder α} {slots next : r.Slots}
    {key : String} {cs rest : List Char} (filled : Filled room r slots)
    (read : fieldEntry style r room key slots cs = .ok (next, rest)) : Filled room r next := by
  unfold fieldEntry at read
  split at read
  · exact filled_assign filled ‹_› read
  · split at read
    · cases read
    · obtain ⟨_, _, read⟩ := of_bind_ok read
      obtain ⟨_, _, read⟩ := of_bind_ok read
      cases read
      exact filled

theorem made_of_build {r : Record Decoder α} {slots : r.Slots} {v : α}
    (filled : Filled room r slots) (built : r.build slots = .ok v) : Made room r v := by
  induction r with
  | of make =>
    cases built
    rfl
  | field front name read fallback ih =>
    rw [Record.build] at built
    split at built
    · cases built
    · rename_i make first
      have front := ih filled.1 first
      split at built
      · rename_i x same
        cases built
        exact ⟨make, x, front, .inl (filled.2 x same), rfl⟩
      · cases built
        exact ⟨make, _, front, .inr rfl, rfl⟩
      · cases built

theorem made_of_fromItems {style : RecordStyle} {r : Record Decoder α} {v : α} {more : Bool}
    {cs rest : List Char} (read : fromItems style room r cs = .ok (v, more, rest)) :
    Made room r v := by
  induction r generalizing more rest with
  | of make =>
    cases read
    rfl
  | field front name reader fallback ih =>
    obtain ⟨⟨make, first, middle⟩, items, read⟩ := of_bind_ok read
    obtain ⟨next, _, read⟩ := of_bind_ok read
    have front := ih items
    cases next with
    | some start =>
      obtain ⟨⟨x, last⟩, value, read⟩ := of_bind_ok read
      cases read
      exact ⟨make, x, front, .inl ⟨start, _, value⟩, rfl⟩
    | none =>
      cases fallback with
      | some x =>
        cases read
        exact ⟨make, x, front, .inr rfl, rfl⟩
      | none => cases read

/-- Both as an object and as a list. -/
theorem made_of_record {style : RecordStyle} {r : Record Decoder α} {v : α} {cs rest : List Char}
    (read : Json.record style r (room + 1) cs = .ok (v, rest)) : Made room r v := by
  unfold Json.record at read
  split at read
  · cases read
  split at read
  · obtain ⟨⟨_, more, _⟩, items, read⟩ := of_bind_ok read
    obtain ⟨_, _, read⟩ := of_bind_ok read
    cases read
    exact made_of_fromItems items
  split at read
  · obtain ⟨⟨slots, last⟩, body, read⟩ := of_bind_ok read
    have filled : Filled room r slots :=
      entries_preserve (Filled room r) (fun _ _ _ _ _ => filled_fieldEntry) (filled_empty r) body
    simp only at read
    split at read
    · cases read
    · obtain ⟨_, _, read⟩ := of_bind_ok read
      cases read
      exact made_of_build filled ‹_›
  · cases read

end Json

end Admission
