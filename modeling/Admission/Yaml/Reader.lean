import Admission.Record
import Admission.Yaml.Node
/-!
Readers of typed values from a YAML document. What a plain scalar is depends on what is asked
for: any scalar is a text, and nothing at all is an empty list or record.
-/

namespace Admission.Yaml

variable {α : Type}

abbrev Reader (α : Type) := Document → Node → Option α

namespace Reader

-- An alias is what it stands for.
def through (read : Node → Option α) (d : Document) (n : Node) : Option α :=
  (d.resolve n).bind read

def text : Reader String :=
  through fun n =>
    match n with
    | .scalar _ _ text => some (String.ofList text)
    | _ => none

def isNull (text : List Char) : Bool :=
  text == ['n', 'u', 'l', 'l'] || text == ['N', 'u', 'l', 'l'] || text == ['N', 'U', 'L', 'L'] ||
    text == ['~']

def nullTag : List Char := "tag:yaml.org,2002:null".toList

def intTag : List Char := "tag:yaml.org,2002:int".toList

-- Nothing or a null is absent; a tag other than that of null makes it a value.
def optional (read : Reader α) : Reader (Option α) := fun d n =>
  let present := (read d n).map some
  match d.resolve n with
  | some (.scalar none .plain text) => if text = [] ∨ isNull text then some none else present
  | some (.scalar (some tag) .plain text) =>
      if tag = nullTag then if isNull text then some none else none else present
  | some _ => present
  | none => none

-- Zeros in front of other digits make no decimal number.
def decimal (cs : List Char) : Option Nat :=
  match cs with
  | '0' :: _ :: _ => none
  | cs => Text.number? 10 cs

def unsigned (cs : List Char) : Option Nat :=
  let cs := match cs with
    | '+' :: rest => rest
    | cs => cs
  match cs with
  | '0' :: 'x' :: rest => Text.number? 16 rest
  | '0' :: 'o' :: rest => Text.number? 8 rest
  | '0' :: 'b' :: rest => Text.number? 2 rest
  | cs => decimal cs

-- A natural number below `limit`.
def natural (limit : Nat) : Reader Nat :=
  through fun n => do
    let text ← match n with
      | .scalar _ .plain text => some text
      | .scalar (some tag) .literal text => if tag = intTag then some text else none
      | _ => none
    let value ← unsigned text
    if value < limit then some value else none

def word32 : Reader Nat := natural UInt32.size

def word64 : Reader Nat := natural UInt64.size

def list (read : Reader α) : Reader (List α) := fun d n => do
  match ← d.resolve n with
  | .sequence _ items => items.mapM (read d)
  | .scalar _ .plain [] => some []
  | _ => none

-- A name by its tag, with nothing behind it, or as a text.
def choice (variants : List (String × α)) : Reader α := fun d n => do
  let named (name : List Char) : Option α := variants.lookup (String.ofList name)
  match ← d.resolve n with
  | .scalar (some ('!' :: c :: name)) style text =>
      if style = .plain ∧ (text = [] ∨ isNull text) then named (c :: name) else none
  | .scalar _ _ text => named text
  | _ => none

-- Puts a value into the slot of its field, which must exist and be empty.
def assign (d : Document) : {α : Type} → (r : Record Reader α) → (key : String) → Node → r.Slots →
    Option r.Slots
  | _, .of _, _, _, _ => none
  | _, .field front name read _fallback, key, n, slots =>
      if key = name then
        match slots.2 with
        | some _ => none
        | none => (read d n).map fun v => (slots.1, some v)
      else (assign d front key n slots.1).map fun front => (front, slots.2)

def assignAll (d : Document) (r : Record Reader α) : List (Node × Node) → r.Slots → Option r.Slots
  | [], slots => some slots
  | (key, value) :: rest, slots => do
      let name ← text d key
      assignAll d r rest (← assign d r name value slots)

-- A mapping whose keys are fields, each at most once.
def record (r : Record Reader α) : Reader α := fun d n => do
  let entries ← match ← d.resolve n with
    | .mapping _ entries => some entries
    | .scalar _ .plain [] => some []
    | _ => none
  (r.build (← assignAll d r entries r.empty)).toOption

end Reader

-- The value of a whole text.
def read? (r : Reader α) (s : String) : Option α := do
  let d ← Document.parse? s.toList
  r d d.root

end Admission.Yaml
