import Admission.Proofs.Yaml.Reader
/-!
Strict records. A record is read from entries whose keys are its fields, each at most once; a field
has the value of its entry or, where it has none, its default.
-/

namespace Admission.Yaml

variable {α β : Type} {d : Document} {n : Node}

/-- What a record is read from. Where nothing is written there are no entries. -/
def Entries (d : Document) (n : Node) (entries : List (Node × Node)) : Prop :=
  (∃ tag, d.resolve n = some (.mapping tag entries)) ∨
  (∃ tag, d.resolve n = some (.scalar tag .plain [])) ∧ entries = []

/-- The texts among the keys. -/
def keys (d : Document) (entries : List (Node × Node)) : List String :=
  entries.filterMap fun e => Reader.text d e.1

/-- Entries whose keys are all texts, and the same with these texts. -/
abbrev Keyed (d : Document) : List (Node × Node) → List (String × Node) → Prop :=
  List.Forall₂ fun entry e => Means.text d entry.1 e.1 ∧ entry.2 = e.2

def Fields (d : Document) (n : Node) (es : List (String × Node)) : Prop :=
  ∃ entries, Entries d n entries ∧ Keyed d entries es

/-- A record whose entries state this. -/
def Means.record (states : Document → List (String × Node) → α → Prop) : Meaning α :=
  fun d n v => ∃ es, Fields d n es ∧ states d es v

/-- Each key is one of the names and stands once. -/
structure Declared (names keys : List String) : Prop where
  known : ∀ key ∈ keys, key ∈ names
  once : keys.Nodup

/-- The field is written and has this value. -/
def Written (d : Document) (es : List (String × Node)) (name : String) (means : Meaning α)
    (v : α) : Prop :=
  ∃ n, (name, n) ∈ es ∧ means d n v

/-- The field is written and has this value, or it is left out and has its default. -/
def Given (d : Document) (es : List (String × Node)) (name : String) (means : Meaning α)
    (default v : α) : Prop :=
  Written d es name means v ∨ name ∉ es.map Prod.fst ∧ v = default

/-- A field of a record: one that has no default must be written. -/
def Filled (d : Document) (es : List (String × Node)) (name : String) (means : Meaning α)
    (fallback : Option α) (v : α) : Prop :=
  match fallback with
  | none => Written d es name means v
  | some default => Given d es name means default v

/-- The record that the fields give has a property; the fields are met in their order. -/
def Gives (d : Document) (es : List (String × Node)) :
    {α : Type} → Record Reader α → (α → Prop) → Prop
  | _, .of make, holds => holds make
  | _, .field front name read fallback, holds =>
      Gives d es front fun make =>
        ∃ x, Filled d es name (fun d n x => read d n = some x) fallback x ∧ holds (make x)

theorem node_unique {es : List (String × Node)} {name : String} {m : Node}
    (once : (es.map Prod.fst).Nodup) (entry : (name, n) ∈ es) (entry' : (name, m) ∈ es) : n = m :=
  congrArg Prod.snd (List.inj_on_of_nodup_map once entry entry' rfl)

/-! The slots of a record hold what was read of the entries so far. -/

section Slots

variable {r : Record Reader α} {es : List (String × Node)}

def HeldBy (d : Document) (es : List (String × Node)) (name : String) (read : Reader β)
    (slot : Option β) : Prop :=
  slot = none ∧ name ∉ es.map Prod.fst ∨
    ∃ v, slot = some v ∧ Written d es name (fun d n x => read d n = some x) v

def Holds (d : Document) (es : List (String × Node)) :
    {α : Type} → (r : Record Reader α) → r.Slots → Prop
  | _, .of _, _ => True
  | _, .field front name read _, slots =>
      Holds d es front slots.1 ∧ HeldBy d es name read slots.2

theorem holds_empty (r : Record Reader α) : Holds d [] r r.empty := by
  induction r with
  | of make => trivial
  | field front name read fallback ih => exact ⟨ih, .inl ⟨rfl, by simp⟩⟩

theorem HeldBy.unique {name : String} {read : Reader β} {slot slot' : Option β}
    (once : (es.map Prod.fst).Nodup) (held : HeldBy d es name read slot)
    (held' : HeldBy d es name read slot') : slot = slot' := by
  rcases held with ⟨empty, missing⟩ | ⟨v, filled, n, entry, value⟩
  · rcases held' with ⟨empty', _⟩ | ⟨_, _, _, entry, _⟩
    · exact empty.trans empty'.symm
    · exact absurd (List.mem_map_of_mem entry) missing
  · rcases held' with ⟨_, missing⟩ | ⟨w, filled', m, entry', value'⟩
    · exact absurd (List.mem_map_of_mem entry) missing
    · have same : n = m := node_unique once entry entry'
      subst same
      rw [filled, filled', ← value, ← value']

/-- An entry of another name leaves a slot as it is. -/
theorem heldBy_concat {name key : String} {read : Reader β} {slot : Option β}
    (other : key ≠ name) :
    HeldBy d (es ++ [(key, n)]) name read slot ↔ HeldBy d es name read slot := by
  simp [HeldBy, Written, Ne.symm other]

theorem Holds.unique {slots slots' : r.Slots} (once : (es.map Prod.fst).Nodup)
    (holds : Holds d es r slots) (holds' : Holds d es r slots') : slots = slots' := by
  induction r with
  | of make => rfl
  | field front name read fallback ih =>
    apply Prod.ext
    · exact ih holds.1 holds'.1
    · exact holds.2.unique once holds'.2

theorem holds_concat {slots : r.Slots} {key : String} (foreign : key ∉ r.names) :
    Holds d (es ++ [(key, n)]) r slots ↔ Holds d es r slots := by
  induction r with
  | of make => rfl
  | field front name read fallback ih =>
    simp only [Record.names, List.mem_append, List.mem_singleton, not_or] at foreign
    rw [Holds, Holds, ih foreign.1, heldBy_concat foreign.2]

/-- Whatever can be read of all the entries can be read of the first ones. -/
theorem Holds.front {more : List (String × Node)} {slots : r.Slots}
    (once : ((es ++ more).map Prod.fst).Nodup) (holds : Holds d (es ++ more) r slots) :
    ∃ earlier, Holds d es r earlier := by
  induction r with
  | of make => exact ⟨slots, trivial⟩
  | field front name read fallback ih =>
    obtain ⟨first, held⟩ := ih holds.1
    by_cases missing : name ∉ es.map Prod.fst
    · exact ⟨(first, none), held, .inl ⟨rfl, missing⟩⟩
    · obtain ⟨⟨_, m⟩, entry, rfl⟩ := List.mem_map.mp (not_not.mp missing)
      refine ⟨(first, slots.2), held, ?_⟩
      rcases holds.2 with ⟨_, absent⟩ | ⟨v, filled, n, other, value⟩
      · simp [List.mem_map_of_mem entry] at absent
      · have same : n = m := node_unique once other (List.mem_append_left more entry)
        exact .inr ⟨v, filled, m, entry, same ▸ value⟩

/-- A value is put only into the slot of its field, where nothing was put before. -/
theorem of_assign {slots next : r.Slots} {key : String} (distinct : r.names.Nodup)
    (holds : Holds d es r slots) (put : Reader.assign d r key n slots = some next) :
    key ∈ r.names ∧ key ∉ es.map Prod.fst ∧ Holds d (es ++ [(key, n)]) r next := by
  induction r with
  | of make => cases put
  | field front name read fallback ih =>
    simp only [Record.names, List.nodup_append, List.mem_singleton] at distinct
    rw [Reader.assign] at put
    split at put
    · rename_i same
      subst same
      have foreign : key ∉ front.names := fun member => distinct.2.2 key member key rfl rfl
      rcases holds.2 with ⟨empty, missing⟩ | ⟨v, filled, _⟩
      · rw [empty] at put
        obtain ⟨v, value, rfl⟩ := Option.map_eq_some_iff.mp put
        refine ⟨by simp [Record.names], missing, (holds_concat foreign).mpr holds.1, .inr ?_⟩
        exact ⟨v, rfl, n, by simp, value⟩
      · rw [filled] at put
        cases put
    · rename_i other
      obtain ⟨first, inner, rfl⟩ := Option.map_eq_some_iff.mp put
      obtain ⟨known, fresh, front⟩ := ih distinct.1 holds.1 inner
      exact ⟨by simp [Record.names, known], fresh, front, (heldBy_concat other).mpr holds.2⟩

theorem assign_of_holds {slots next : r.Slots} {key : String} (distinct : r.names.Nodup)
    (once : (es.map Prod.fst).Nodup) (holds : Holds d es r slots) (known : key ∈ r.names)
    (fresh : key ∉ es.map Prod.fst) (later : Holds d (es ++ [(key, n)]) r next) :
    Reader.assign d r key n slots = some next := by
  induction r with
  | of make => cases known
  | field front name read fallback ih =>
    simp only [Record.names, List.nodup_append, List.mem_append, List.mem_singleton]
      at distinct known
    rw [Reader.assign]
    by_cases same : key = name
    · subst same
      have foreign : key ∉ front.names := fun member => distinct.2.2 key member key rfl rfl
      have unmoved : slots.1 = next.1 := holds.1.unique once ((holds_concat foreign).mp later.1)
      have empty : slots.2 = none := by
        rcases holds.2 with ⟨empty, _⟩ | ⟨_, _, _, entry, _⟩
        · exact empty
        · exact absurd (List.mem_map_of_mem entry) fresh
      rcases later.2 with ⟨_, missing⟩ | ⟨v, filled, m, entry, value⟩
      · simp at missing
      · have here : m = n := by
          rcases List.mem_append.mp entry with old | new
          · exact absurd (List.mem_map_of_mem old) fresh
          · simpa using new
        subst here
        rw [if_pos rfl, empty, value, unmoved]
        exact congrArg some (Prod.ext rfl filled.symm)
    · have inner := ih distinct.1 holds.1 (known.resolve_right same) later.1
      have unmoved : slots.2 = next.2 := holds.2.unique once ((heldBy_concat same).mp later.2)
      rw [if_neg same, inner, unmoved]
      rfl

/-- The entries of a record are put into its slots exactly if each key is a field that stands
once. -/
theorem assignAll_eq_some_iff {entries : List (Node × Node)} {slots out : r.Slots}
    (distinct : r.names.Nodup) (once : (es.map Prod.fst).Nodup) (holds : Holds d es r slots) :
    Reader.assignAll d r entries slots = some out ↔
      ∃ more, Keyed d entries more ∧
        (∀ key ∈ more.map Prod.fst, key ∈ r.names) ∧ ((es ++ more).map Prod.fst).Nodup ∧
        Holds d (es ++ more) r out := by
  induction entries generalizing es slots with
  | nil =>
    simp only [Reader.assignAll, List.forall₂_nil_left_iff, exists_eq_left, List.append_nil]
    constructor
    · rintro ⟨⟩
      exact ⟨by simp, once, holds⟩
    · rintro ⟨_, _, later⟩
      exact congrArg some (holds.unique once later)
  | cons entry entries ih =>
    obtain ⟨key, value⟩ := entry
    constructor
    · intro done
      obtain ⟨name, reads, done⟩ := Option.bind_eq_some_iff.mp done
      obtain ⟨next, put, done⟩ := Option.bind_eq_some_iff.mp done
      obtain ⟨known, fresh, holds⟩ := of_assign distinct holds put
      have once : ((es ++ [(name, value)]).map Prod.fst).Nodup := by
        rw [List.map_append, List.map_singleton, List.nodup_append_comm]
        exact List.nodup_cons.mpr ⟨fresh, once⟩
      obtain ⟨more, each, declared, once, later⟩ := (ih once holds).mp done
      refine ⟨(name, value) :: more, .cons ⟨(accepts_text _ _ _).mp reads, rfl⟩ each, ?_, ?_, ?_⟩
      · simpa [known] using declared
      · simpa using once
      · simpa using later
    · rintro ⟨_, each, declared, whole, later⟩
      obtain ⟨⟨name, _⟩, more, ⟨reads, rfl⟩, rest, rfl⟩ := List.forall₂_cons_left_iff.mp each
      rw [List.append_cons] at whole later
      have front : ((es ++ [(name, value)]).map Prod.fst).Nodup := by
        rw [List.map_append] at whole
        exact (List.nodup_append.mp whole).1
      have fresh : name ∉ es.map Prod.fst := by
        rw [List.map_append, List.map_singleton, List.nodup_append_comm] at front
        exact (List.nodup_cons.mp front).1
      obtain ⟨known, declared⟩ := List.forall_mem_cons.mp declared
      obtain ⟨next, held⟩ := later.front whole
      have put := assign_of_holds distinct once holds known fresh held
      have done := (ih front held).mpr ⟨more, rest, declared, whole, later⟩
      rw [Reader.assignAll, (accepts_text _ _ _).mpr reads]
      simp [put, done]

end Slots

theorem build_field_ok_iff {front : Record Reader (β → α)} {name : String} {read : Reader β}
    {fallback : Option β} {slots : (Record.field front name read fallback).Slots} {v : α} :
    (Record.field front name read fallback).build slots = .ok v ↔
      ∃ make x, front.build slots.1 = .ok make ∧ slots.2.or fallback = some x ∧ v = make x := by
  rw [Record.build]
  cases front.build slots.1 with
  | error missing => simp
  | ok make =>
    rcases slots with ⟨first, _ | x⟩
    · cases fallback <;> simp [eq_comm]
    · simp [eq_comm]

theorem filled_iff {es : List (String × Node)} {name : String} {read : Reader β}
    {fallback : Option β} {x : β} :
    Filled d es name (fun d n x => read d n = some x) fallback x ↔
      ∃ slot, HeldBy d es name read slot ∧ slot.or fallback = some x := by
  constructor
  · intro filled
    cases fallback with
    | none => exact ⟨some x, .inr ⟨x, rfl, filled⟩, rfl⟩
    | some default =>
      rcases filled with written | ⟨missing, rfl⟩
      · exact ⟨some x, .inr ⟨x, rfl, written⟩, rfl⟩
      · exact ⟨none, .inl ⟨rfl, missing⟩, rfl⟩
  · rintro ⟨slot, ⟨rfl, missing⟩ | ⟨v, rfl, written⟩, value⟩
    · cases fallback with
      | none => cases value
      | some default => exact .inr ⟨missing, (Option.some.inj value).symm⟩
    · cases value
      cases fallback with
      | none => exact written
      | some default => exact .inl written

theorem gives_iff {r : Record Reader α} {es : List (String × Node)} {holds : α → Prop} :
    Gives d es r holds ↔ ∃ slots v, Holds d es r slots ∧ r.build slots = .ok v ∧ holds v := by
  induction r with
  | of make =>
    constructor
    · intro made
      exact ⟨(), make, trivial, rfl, made⟩
    · rintro ⟨_, _, _, ⟨⟩, made⟩
      exact made
  | field front name read fallback ih =>
    constructor
    · intro gives
      obtain ⟨slots, make, first, built, x, filled, made⟩ := ih.mp gives
      obtain ⟨slot, held, value⟩ := filled_iff.mp filled
      refine ⟨(slots, slot), make x, ⟨first, held⟩, ?_, made⟩
      exact build_field_ok_iff.mpr ⟨make, x, built, value, rfl⟩
    · rintro ⟨slots, _, ⟨first, held⟩, whole, made⟩
      obtain ⟨make, x, built, value, rfl⟩ := build_field_ok_iff.mp whole
      apply ih.mpr
      exact ⟨slots.1, make, first, built, x, filled_iff.mpr ⟨_, held, value⟩, made⟩

theorem toOption_eq_some_iff {ε : Type} {result : Except ε α} {v : α} :
    result.toOption = some v ↔ result = .ok v := by
  cases result <;> simp [Except.toOption]

theorem record_eq_some_iff_entries {r : Record Reader α} {v : α} :
    Reader.record r d n = some v ↔
      ∃ entries slots, Entries d n entries ∧ Reader.assignAll d r entries r.empty = some slots ∧
        r.build slots = .ok v := by
  unfold Reader.record Entries
  cases d.resolve n with
  | none => simp
  | some m =>
    cases m with
    | scalar tag style cs =>
      cases style <;> cases cs <;>
        simp [Option.bind_eq_some_iff, toOption_eq_some_iff]
    | mapping tag entries =>
      simp [Option.bind_eq_some_iff, toOption_eq_some_iff]
    | _ => simp

/-- A strict record is read exactly if every key is a field that stands once and every field is
there or has a default. -/
theorem record_eq_some_iff {r : Record Reader α} (distinct : r.names.Nodup) {v : α} :
    Reader.record r d n = some v ↔
      ∃ es, Fields d n es ∧ Declared r.names (es.map Prod.fst) ∧ Gives d es r (· = v) := by
  have once : (([] : List (String × Node)).map Prod.fst).Nodup := List.nodup_nil
  rw [record_eq_some_iff_entries]
  constructor
  · rintro ⟨entries, slots, stand, filled, built⟩
    obtain ⟨es, each, known, once, holds⟩ :=
      (assignAll_eq_some_iff distinct once (holds_empty r)).mp filled
    exact ⟨es, ⟨entries, stand, each⟩, ⟨known, once⟩, gives_iff.mpr ⟨slots, v, holds, built, rfl⟩⟩
  · rintro ⟨es, ⟨entries, stand, each⟩, ⟨known, apart⟩, gives⟩
    obtain ⟨slots, _, holds, built, rfl⟩ := gives_iff.mp gives
    have filled := (assignAll_eq_some_iff distinct once (holds_empty r)).mpr
      ⟨es, each, known, apart, holds⟩
    exact ⟨entries, slots, stand, filled, built⟩

theorem accepts_record {r : Record Reader α} (distinct : r.names.Nodup)
    {states : Document → List (String × Node) → α → Prop}
    (same : ∀ d es v,
      Declared r.names (es.map Prod.fst) ∧ Gives d es r (· = v) ↔ states d es v) :
    Accepts (Reader.record r) (Means.record states) := by
  intro d n v
  rw [record_eq_some_iff distinct]
  simp only [same, Means.record]

/-! The raw entries of a node. -/

/-- An entry whose key is none of the names, or a key that stands twice. -/
inductive Stray (d : Document) (names : List String) (entries : List (Node × Node)) : Prop
  | unknown {entry : Node × Node} : entry ∈ entries →
      (∀ name ∈ names, ¬ Means.text d entry.1 name) → Stray d names entries
  | twice : ¬ (keys d entries).Nodup → Stray d names entries

/-- The node `m` stands behind the key `name` of the node `n`. -/
def Entry (d : Document) (n : Node) (name : String) (m : Node) : Prop :=
  ∃ entries key, Entries d n entries ∧ (key, m) ∈ entries ∧ Means.text d key name

theorem Entries.unique {entries entries' : List (Node × Node)} (stand : Entries d n entries)
    (stand' : Entries d n entries') : entries = entries' := by
  rcases stand with ⟨tag, node⟩ | ⟨⟨tag, node⟩, rfl⟩
  · rcases stand' with ⟨tag', node'⟩ | ⟨⟨tag', node'⟩, _⟩
    · cases node.symm.trans node'
      rfl
    · cases node.symm.trans node'
  · rcases stand' with ⟨tag', node'⟩ | ⟨_, rfl⟩
    · cases node.symm.trans node'
    · rfl

theorem Keyed.keys_eq {entries : List (Node × Node)} {es : List (String × Node)}
    (each : Keyed d entries es) : keys d entries = es.map Prod.fst := by
  induction each with
  | nil => rfl
  | cons first _ ih =>
    rw [keys, List.filterMap_cons, (accepts_text _ _ _).mpr first.1, List.map_cons, ← ih]
    rfl

theorem Keyed.mem {entries : List (Node × Node)} {es : List (String × Node)}
    (each : Keyed d entries es) {entry : Node × Node} (member : entry ∈ entries) :
    ∃ name, Means.text d entry.1 name ∧ (name, entry.2) ∈ es := by
  induction each with
  | nil => cases member
  | @cons _ e _ _ first _ ih =>
    rcases List.mem_cons.mp member with rfl | later
    · exact ⟨e.1, first.1, first.2 ▸ List.mem_cons_self⟩
    · obtain ⟨name, reads, stands⟩ := ih later
      exact ⟨name, reads, List.mem_cons_of_mem _ stands⟩

theorem text_unique {name name' : String} (reads : Means.text d n name)
    (reads' : Means.text d n name') : name = name' :=
  Option.some.inj
    (((accepts_text d n name).mpr reads).symm.trans ((accepts_text d n name').mpr reads'))

theorem Stray.of_key {names : List String} {entries : List (Node × Node)} {key : String}
    (stands : key ∈ keys d entries) (foreign : key ∉ names) : Stray d names entries := by
  obtain ⟨entry, member, reads⟩ := List.mem_filterMap.mp stands
  apply Stray.unknown member
  intro name known reads'
  exact foreign (text_unique ((accepts_text _ _ _).mp reads) reads' ▸ known)

theorem Fields.mem {es : List (String × Node)} {name : String} {m : Node} (fields : Fields d n es)
    (entry : Entry d n name m) : (name, m) ∈ es := by
  obtain ⟨entries, stand, each⟩ := fields
  obtain ⟨entries', key, stand', member, reads⟩ := entry
  rw [stand'.unique stand] at member
  obtain ⟨name', reads', stands⟩ := each.mem member
  exact text_unique reads reads' ▸ stands

theorem Given.of_mem {es : List (String × Node)} {name : String} {means : Meaning α}
    {default v : α} {m : Node} (given : Given d es name means default v)
    (once : (es.map Prod.fst).Nodup) (member : (name, m) ∈ es) : means d m v := by
  rcases given with ⟨n, other, value⟩ | ⟨missing, _⟩
  · exact node_unique once other member ▸ value
  · exact absurd (List.mem_map_of_mem member) missing

/-- No entry of a record that was read is stray. -/
theorem Fields.not_stray {es : List (String × Node)} {names : List String}
    {entries : List (Node × Node)} (fields : Fields d n es) (stand : Entries d n entries)
    (declared : Declared names (es.map Prod.fst)) : ¬ Stray d names entries := by
  obtain ⟨entries', stand', each⟩ := fields
  rw [stand'.unique stand] at each
  rintro (⟨member, foreign⟩ | repeated)
  · obtain ⟨name, reads, stands⟩ := each.mem member
    exact foreign name (declared.known name (List.mem_map_of_mem stands)) reads
  · exact repeated (each.keys_eq ▸ declared.once)

theorem not_stray_nil {names : List String} : ¬ Stray d names [] := by
  rintro (⟨member, _⟩ | repeated)
  · cases member
  · exact repeated List.nodup_nil

end Admission.Yaml
