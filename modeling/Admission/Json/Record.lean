import Admission.Json.Decoder
import Admission.Record
/-!
Records as JSON objects. The keys come in any order; the fields may also stand in a list, in the
order of their declaration, where only trailing fields can be missing.
-/

namespace Admission.Json

open Decoder

variable {α : Type}

structure RecordStyle where
  -- how the record is called where something else was found
  title : String
  -- how it is called where its list form is too short
  listTitle : String
  -- an unknown key is a fault
  strict : Bool

namespace RecordStyle

def ofName (name : String) (strict : Bool) (size : Nat) : RecordStyle :=
  ⟨"struct " ++ name, "struct " ++ name ++ " with " ++ toString size ++ " element" ++
    (if size = 1 then "" else "s"), strict⟩

end RecordStyle

/-- Puts the value that follows into the slot of the field called `key`, if there is one. -/
def assign (room : Nat) : {α : Type} → (r : Record Decoder α) → (key : String) → r.Slots →
    Option (List Char → Except Fault (r.Slots × List Char))
  | _, .of _, _, _ => none
  | _, .field front name read _fallback, key, slots =>
      if key = name then
        some fun cs =>
          match slots.2 with
          | some _ => .error (.duplicateField name)
          | none => do
              let (v, rest) ← read room (← colon cs)
              .ok ((slots.1, some v), rest)
      else
        (assign room front key slots.1).map fun put cs => do
          let (front, rest) ← put cs
          .ok ((front, slots.2), rest)

def fieldEntry (style : RecordStyle) (r : Record Decoder α) (room : Nat) (key : String)
    (slots : r.Slots) (cs : List Char) : Except Fault (r.Slots × List Char) :=
  match assign room r key slots with
  | some put => put cs
  | none =>
      if style.strict then .error (.unknownField key r.names)
      else do
        let rest ← skipValue (← colon cs)
        .ok (slots, rest)

def fromObject (style : RecordStyle) (r : Record Decoder α) (room : Nat) (cs : List Char) :
    Except Fault (α × List Char) := do
  let (slots, rest) ← objectBody (fieldEntry style r room) r.empty cs
  match r.build slots with
  | .error name => .error (.missingField name)
  | .ok v => .ok (v, ← closeObject rest)

/-- The fields that stand in a list, up to the last declared one. -/
def fromItems (style : RecordStyle) (room : Nat) :
    {α : Type} → Record Decoder α → List Char → Except Fault (α × Bool × List Char)
  | _, .of make, cs => .ok (make, true, cs)
  | _, .field front _ read fallback, cs => do
      let (make, first, rest) ← fromItems style room front cs
      match ← nextItem first rest with
      | some start =>
          let (v, rest) ← read room start
          .ok (make v, false, rest)
      | none =>
          match fallback with
          | some v => .ok (make v, first, rest)
          | none => .error (.wrongLength front.size style.listTitle)

def fromList (style : RecordStyle) (r : Record Decoder α) (room : Nat) (cs : List Char) :
    Except Fault (α × List Char) := do
  let (v, _, rest) ← fromItems style room r cs
  .ok (v, ← closeList rest)

def record (style : RecordStyle) (r : Record Decoder α) : Decoder α := fun room cs =>
  match skipSpace cs with
  | [] => .error .endOfValue
  | c :: rest =>
      if c = '[' then
        match room with
        | 0 => .error .tooDeep
        | room + 1 => fromList style r room rest
      else if c = '\x7b' then
        match room with
        | 0 => .error .tooDeep
        | room + 1 => fromObject style r room rest
      else .error (mismatch style.title cs)

end Admission.Json
