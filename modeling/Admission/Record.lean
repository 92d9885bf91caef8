/-!
Descriptions of records. A record is built by a function that takes its fields in their order;
each field has a name, a reader for its value and, if it may be left out, the value it then has.
The kind of reader is left open, so that one description serves several formats.
-/

namespace Admission

inductive Record (reader : Type → Type) : Type → Type 1 where
  | of {α : Type} (make : α) : Record reader α
  | field {α β : Type} (front : Record reader (β → α)) (name : String) (read : reader β)
      (fallback : Option β) : Record reader α

namespace Record

variable {reader reader' : Type → Type}

def required {α β : Type} (front : Record reader (β → α)) (name : String) (read : reader β) :
    Record reader α :=
  field front name read none

def defaulted {α β : Type} (front : Record reader (β → α)) (name : String) (read : reader β)
    (value : β) : Record reader α :=
  field front name read (some value)

/-- What has been read of each field so far. -/
def Slots : {α : Type} → Record reader α → Type
  | _, .of _ => Unit
  | _, @field _ _ β front _ _ _ => front.Slots × Option β

def empty : {α : Type} → (r : Record reader α) → r.Slots
  | _, .of _ => ()
  | _, .field front _ _ _ => (front.empty, none)

def names : {α : Type} → Record reader α → List String
  | _, .of _ => []
  | _, .field front name _ _ => front.names ++ [name]

def size {α : Type} (r : Record reader α) : Nat := r.names.length

/-- The record from what was read; of several missing fields the first one is named. -/
def build : {α : Type} → (r : Record reader α) → r.Slots → Except String α
  | _, .of make, _ => .ok make
  | _, .field front name _read fallback, slots =>
      match front.build slots.1 with
      | .error missing => .error missing
      | .ok make =>
          match slots.2, fallback with
          | some v, _ => .ok (make v)
          | none, some v => .ok (make v)
          | none, none => .error name

/-- The same fields, read in another way. -/
def mapReader (f : {β : Type} → reader β → reader' β) :
    {α : Type} → Record reader α → Record reader' α
  | _, .of make => .of make
  | _, .field front name read fallback => .field (front.mapReader f) name (f read) fallback

end Record

end Admission
