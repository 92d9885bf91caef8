import Admission.Proofs.Except
import Admission.Yaml.Reader
import Mathlib.Data.List.Forall2
import Mathlib.Data.List.Nodup
/-!
What the readers of a document accept. For each reader a relation says which value a node means,
without saying how it is read; the reader gives exactly these values.
-/

namespace Admission.Yaml

variable {α β : Type}

abbrev Meaning (α : Type) := Document → Node → α → Prop

/-- The reader gives the values that a node means, and fails where it means none. -/
def Accepts (read : Reader α) (means : Meaning α) : Prop :=
  ∀ d n v, read d n = some v ↔ means d n v

theorem Accepts.eq {read : Reader α} {means : Meaning α} (value : Accepts read means) :
    (fun d n v => read d n = some v) = means := by
  funext d n v
  exact propext (value d n v)

/-! Numbers. -/

/-- Digits of a base, the most significant one first, and what they stand for. -/
def Numeral (base : Nat) (cs : List Char) (v : Nat) : Prop :=
  cs ≠ [] ∧ ∃ ds, List.Forall₂ (fun c d => Text.hexDigit c = some d ∧ d < base) cs ds ∧
    v = ds.foldl (fun n d => n * base + d) 0

/-- Hexadecimal, octal, binary, or decimal without zeros in front. -/
inductive Based : List Char → Nat → Prop
  | hexadecimal {cs : List Char} {v : Nat} : Numeral 16 cs v → Based ('0' :: 'x' :: cs) v
  | octal {cs : List Char} {v : Nat} : Numeral 8 cs v → Based ('0' :: 'o' :: cs) v
  | binary {cs : List Char} {v : Nat} : Numeral 2 cs v → Based ('0' :: 'b' :: cs) v
  | decimal {cs : List Char} {v : Nat} : Numeral 10 cs v → (∀ c rest, cs ≠ '0' :: c :: rest) →
      Based cs v

inductive Unsigned : List Char → Nat → Prop
  | bare {cs : List Char} {v : Nat} : Based cs v → Unsigned cs v
  | plus {cs : List Char} {v : Nat} : Based cs v → Unsigned ('+' :: cs) v

theorem numberFrom_eq_some_iff {base n v : Nat} {cs : List Char} :
    Text.numberFrom base n cs = some v ↔
      ∃ ds, List.Forall₂ (fun c d => Text.hexDigit c = some d ∧ d < base) cs ds ∧
        v = ds.foldl (fun n d => n * base + d) n := by
  induction cs generalizing n with
  | nil => simp [Text.numberFrom, eq_comm]
  | cons c cs ih =>
    rw [Text.numberFrom]
    cases digit : Text.hexDigit c with
    | none => simp [List.forall₂_cons_left_iff, digit]
    | some d =>
      by_cases small : d < base
      · simp [List.forall₂_cons_left_iff, digit, small, ih]
      · simp [List.forall₂_cons_left_iff, digit, small]

theorem number?_eq_some_iff {base v : Nat} {cs : List Char} :
    Text.number? base cs = some v ↔ Numeral base cs v := by
  unfold Text.number? Numeral
  by_cases empty : cs = []
  · simp [empty]
  · simp [empty, numberFrom_eq_some_iff]

theorem decimal_eq_some_iff {cs : List Char} {v : Nat} :
    Reader.decimal cs = some v ↔ Numeral 10 cs v ∧ ∀ c rest, cs ≠ '0' :: c :: rest := by
  unfold Reader.decimal
  split
  · simp
  · rename_i short
    rw [number?_eq_some_iff]
    exact (and_iff_left short).symm

theorem not_based_plus {cs : List Char} {v : Nat} : ¬ Based ('+' :: cs) v := by
  rintro (_ | _ | _ | ⟨⟨_, ds, each, _⟩, _⟩)
  obtain ⟨d, _, ⟨digit, _⟩, _⟩ := List.forall₂_cons_left_iff.mp each
  have other : Text.hexDigit '+' = none := by decide
  rw [other] at digit
  cases digit

theorem based_iff {cs : List Char} {v : Nat} :
    (match cs with
      | '0' :: 'x' :: rest => Text.number? 16 rest
      | '0' :: 'o' :: rest => Text.number? 8 rest
      | '0' :: 'b' :: rest => Text.number? 2 rest
      | cs => Reader.decimal cs) = some v ↔ Based cs v := by
  split
  · rw [number?_eq_some_iff]
    constructor
    · exact .hexadecimal
    · rintro (numeral | _ | _ | ⟨_, short⟩)
      · exact numeral
      · exact absurd rfl (short _ _)
  · rw [number?_eq_some_iff]
    constructor
    · exact .octal
    · rintro (_ | numeral | _ | ⟨_, short⟩)
      · exact numeral
      · exact absurd rfl (short _ _)
  · rw [number?_eq_some_iff]
    constructor
    · exact .binary
    · rintro (_ | _ | numeral | ⟨_, short⟩)
      · exact numeral
      · exact absurd rfl (short _ _)
  · rename_i hexadecimal octal binary
    rw [decimal_eq_some_iff]
    constructor
    · exact fun ⟨numeral, short⟩ => .decimal numeral short
    · rintro (_ | _ | _ | ⟨numeral, short⟩)
      · exact absurd rfl (hexadecimal _)
      · exact absurd rfl (octal _)
      · exact absurd rfl (binary _)
      · exact ⟨numeral, short⟩

theorem unsigned_eq_some_iff {cs : List Char} {v : Nat} :
    Reader.unsigned cs = some v ↔ Unsigned cs v := by
  by_cases signed : ∃ rest, cs = '+' :: rest
  · obtain ⟨rest, rfl⟩ := signed
    apply Iff.trans (@based_iff rest v)
    constructor
    · exact .plus
    · rintro (based | based)
      · exact absurd based not_based_plus
      · exact based
  · have same : Reader.unsigned cs = some v ↔ Based cs v := by
      unfold Reader.unsigned
      split
      · exact absurd ⟨_, rfl⟩ signed
      · exact based_iff
    rw [same]
    constructor
    · exact .bare
    · rintro (based | based)
      · exact based
      · exact absurd ⟨_, rfl⟩ signed

/-! Values. -/

namespace Means

def text : Meaning String := fun d n s =>
  ∃ tag style cs, d.resolve n = some (.scalar tag style cs) ∧ s = String.ofList cs

/-- Digits stand plain or, behind the tag of numbers, in a block. -/
def number (limit : Nat) : Meaning Nat := fun d n v =>
  ∃ tag style cs, d.resolve n = some (.scalar tag style cs) ∧
    (style = .plain ∨ style = .literal ∧ tag = some Reader.intTag) ∧ Unsigned cs v ∧ v < limit

/-- Nothing, or one of the names of null. -/
def Absent (d : Document) (n : Node) : Prop :=
  ∃ tag cs, d.resolve n = some (.scalar tag .plain cs) ∧
    (tag = none ∧ (cs = [] ∨ Reader.isNull cs) ∨ tag = some Reader.nullTag ∧ Reader.isNull cs)

/-- The tag of null leaves no room for a value. -/
def Present (d : Document) (n : Node) : Prop :=
  ∃ m, d.resolve n = some m ∧ (∀ cs, m = .scalar none .plain cs → cs ≠ [] ∧ ¬ Reader.isNull cs) ∧
    ∀ cs, m ≠ .scalar (some Reader.nullTag) .plain cs

def option (means : Meaning α) : Meaning (Option α) := fun d n v =>
  Absent d n ∧ v = none ∨ Present d n ∧ ∃ x, means d n x ∧ v = some x

/-- The items in their order; nothing at all is a list without items. -/
def list (means : Meaning α) : Meaning (List α) := fun d n vs =>
  (∃ tag items, d.resolve n = some (.sequence tag items) ∧ List.Forall₂ (means d) items vs) ∨
  (∃ tag, d.resolve n = some (.scalar tag .plain []) ∧ vs = [])

/-- A name that is a tag with nothing behind it. -/
def Tagged (d : Document) (n : Node) (name : List Char) : Prop :=
  ∃ cs, d.resolve n = some (.scalar (some ('!' :: name)) .plain cs) ∧ name ≠ [] ∧
    (cs = [] ∨ Reader.isNull cs)

/-- A name that is a text. -/
def Spelled (d : Document) (n : Node) (name : List Char) : Prop :=
  ∃ tag style, d.resolve n = some (.scalar tag style name) ∧
    ∀ c rest, tag ≠ some ('!' :: c :: rest)

def choice (variants : List (String × α)) : Meaning α := fun d n v =>
  ∃ name, (Tagged d n name ∨ Spelled d n name) ∧ variants.lookup (String.ofList name) = some v

end Means

theorem accepts_text : Accepts Reader.text Means.text := by
  intro d n s
  unfold Reader.text Reader.through Means.text
  cases d.resolve n with
  | none => simp
  | some m => cases m <;> simp [eq_comm]

theorem accepts_natural (limit : Nat) : Accepts (Reader.natural limit) (Means.number limit) := by
  intro d n v
  unfold Reader.natural Reader.through Means.number
  cases d.resolve n with
  | none => simp
  | some m =>
    cases m with
    | scalar tag style cs =>
      have value : (do let value ← Reader.unsigned cs; if value < limit then some value else none) =
          some v ↔ Unsigned cs v ∧ v < limit := by
        rw [← unsigned_eq_some_iff]
        cases Reader.unsigned cs with
        | none => simp
        | some w => by_cases small : w < limit <;> simp [small] <;> omega
      cases style <;> cases tag <;> simp [← value]
    | _ => simp

namespace Means

variable {d : Document} {n : Node}

theorem optional_absent (read : Reader α) (absent : Absent d n) :
    Reader.optional read d n = some none := by
  obtain ⟨tag, cs, stands, ⟨rfl, nothing⟩ | ⟨rfl, null⟩⟩ := absent
  · simp [Reader.optional, stands, nothing]
  · simp [Reader.optional, stands, null]

theorem optional_present (read : Reader α) (present : Present d n) :
    Reader.optional read d n = (read d n).map some := by
  obtain ⟨m, stands, bare, untagged⟩ := present
  unfold Reader.optional
  rw [stands]
  split
  · rename_i cs same
    cases same
    have other := bare cs rfl
    simp [other]
  · rename_i tag cs same
    cases same
    have other : tag ≠ Reader.nullTag := fun null => untagged cs (null ▸ rfl)
    rw [if_neg other]
  · rfl
  · rename_i same
    cases same

theorem optional_eq_none (read : Reader α) (written : ¬ Absent d n) (missing : ¬ Present d n) :
    Reader.optional read d n = none := by
  unfold Reader.optional
  split
  · rename_i cs stands
    apply absurd _ missing
    have other : ¬ (cs = [] ∨ Reader.isNull cs) :=
      fun nothing => written ⟨none, cs, stands, .inl ⟨rfl, nothing⟩⟩
    refine ⟨_, stands, ?_, nofun⟩
    intro other' same
    cases same
    exact not_or.mp other
  · rename_i tag cs stands
    by_cases null : tag = Reader.nullTag
    · have other : ¬ Reader.isNull cs :=
        fun named => written ⟨tag, cs, stands, .inr ⟨by rw [null], named⟩⟩
      rw [if_pos null, if_neg other]
    · apply absurd _ missing
      refine ⟨_, stands, nofun, ?_⟩
      intro other same
      cases same
      exact null rfl
  · rename_i m bare tagged stands
    apply absurd _ missing
    refine ⟨m, stands, ?_, ?_⟩
    · intro cs same
      exact absurd same (bare cs)
    · intro cs same
      exact absurd same (tagged _ cs)
  · rfl

theorem not_present (absent : Absent d n) : ¬ Present d n := by
  obtain ⟨tag, cs, stands, ⟨rfl, nothing⟩ | ⟨rfl, null⟩⟩ := absent
  · rintro ⟨m, same, bare, _⟩
    cases stands.symm.trans same
    exact absurd nothing (not_or.mpr (bare cs rfl))
  · rintro ⟨m, same, _, untagged⟩
    cases stands.symm.trans same
    exact untagged cs rfl

end Means

theorem accepts_optional {read : Reader α} {means : Meaning α} (value : Accepts read means) :
    Accepts (Reader.optional read) (Means.option means) := by
  intro d n v
  unfold Means.option
  by_cases absent : Means.Absent d n
  · simp [Means.optional_absent read absent, absent, Means.not_present absent, @eq_comm _ v]
  by_cases present : Means.Present d n
  · simp [Means.optional_present read present, absent, present, value d n, @eq_comm _ v]
  · simp [Means.optional_eq_none read absent present, absent, present]

theorem accepts_list {read : Reader α} {means : Meaning α} (value : Accepts read means) :
    Accepts (Reader.list read) (Means.list means) := by
  intro d n vs
  unfold Reader.list Means.list
  cases d.resolve n with
  | none => simp
  | some m =>
    cases m with
    | scalar tag style cs => cases style <;> cases cs <;> simp [eq_comm]
    | sequence tag items => simp [mapM_eq_some_iff, value d _]
    | _ => simp

theorem accepts_choice (variants : List (String × α)) :
    Accepts (Reader.choice variants) (Means.choice variants) := by
  intro d n v
  unfold Reader.choice Means.choice Means.Tagged Means.Spelled
  cases stands : d.resolve n with
  | none => simp
  | some m =>
    cases m with
    | scalar tag style cs =>
      by_cases tagged : ∃ c rest, tag = some ('!' :: c :: rest)
      · obtain ⟨c, rest, rfl⟩ := tagged
        by_cases alone : style = .plain ∧ (cs = [] ∨ Reader.isNull cs = true)
        · simp [alone]
        · simp [alone]
      · have plain : ∀ c rest, tag ≠ some ('!' :: c :: rest) :=
          fun c rest same => tagged ⟨c, rest, same⟩
        have nameless : ∀ name, tag = some ('!' :: name) → name = [] := by
          intro name same
          cases name with
          | nil => rfl
          | cons c rest => exact absurd same (plain c rest)
        have unnamed : ∀ name, tag = some ('!' :: name) → style = .plain → name ≠ [] →
            (cs = [] ∨ Reader.isNull cs = true) →
            variants.lookup (String.ofList name) = some v →
            variants.lookup (String.ofList cs) = some v := by
          intro name same _ named
          exact absurd (nameless name same) named
        simpa [plain] using unnamed
    | _ => simp

end Admission.Yaml
