import Admission.Error
import Admission.Json.Record
/-!
What a filter, or a whole chain, answers at a hook. In JSON the kind stands under `decision`,
next to the fields of that kind, or first in a list.
-/

namespace Admission

inductive Decision where
  | allow
  -- policy says no
  | deny (filter reason : String)
  -- policy could not be asked
  | error (filter reason : String)
  deriving DecidableEq, Repr

namespace Decision

def isAllow : Decision → Bool
  | .allow => true
  | _ => false

theorem isAllow_iff {d : Decision} : d.isAllow = true ↔ d = .allow := by
  cases d <;> simp [isAllow]

def filter? : Decision → Option String
  | .allow => none
  | .deny filter _ => some filter
  | .error filter _ => some filter

def reason? : Decision → Option String
  | .allow => none
  | .deny _ reason => some reason
  | .error _ reason => some reason

/-- As metrics and logs call it. -/
def outcome : Decision → String
  | .allow => "allowed"
  | .deny _ _ => "denied"
  | .error _ _ => "unavailable"

/-- For callers that go on only when allowed. -/
def toResult : Decision → Except Error Unit
  | .allow => .ok ()
  | .deny filter reason => .error (.policyDenied filter reason)
  | .error filter reason => .error (.policyUnavailable filter reason)

def toJson : Decision → Json
  | .allow => .object [("decision", .text "allow")]
  | .deny filter reason =>
      .object [("decision", .text "deny"), ("filter", .text filter), ("reason", .text reason)]
  | .error filter reason =>
      .object [("decision", .text "error"), ("filter", .text filter), ("reason", .text reason)]

inductive Kind where
  | allow
  | deny
  | error
  deriving DecidableEq

def Kind.title : Kind → String
  | .allow => "Allow"
  | .deny => "Deny"
  | .error => "Error"

def kind : Decision → Kind
  | .allow => .allow
  | .deny _ _ => .deny
  | .error _ _ => .error

/-- The values beside the kind, held until the kind is known. -/
inductive Parts where
  | entries (parts : List (String × Json))
  | items (parts : List Json)

open Json (Fault Found)

def found : Json → Found
  | .null => .null
  | .bool b => .bool b
  | .int n => .int n
  | .float x => .float x
  | .text s => .text s
  | .list _ => .list
  | .object _ => .object

def heldText : Json → Except Fault String
  | .text s => .ok s
  | other => .error (.wrongType (found other) "a string")

-- `filter` and `reason` among entries in any order; others are ignored.
def heldFields : List (String × Json) → Option String → Option String →
    Except Fault (String × String)
  | [], filter, reason =>
      match filter, reason with
      | some f, some r => .ok (f, r)
      | none, _ => .error (.missingField "filter")
      | some _, none => .error (.missingField "reason")
  | (key, value) :: rest, filter, reason =>
      if key = "filter" then
        match filter with
        | some _ => .error (.duplicateField "filter")
        | none => do heldFields rest (some (← heldText value)) reason
      else if key = "reason" then
        match reason with
        | some _ => .error (.duplicateField "reason")
        | none => do heldFields rest filter (some (← heldText value))
      else heldFields rest filter reason

def heldItems (kind : Kind) : List Json → Except Fault (String × String)
  | filter :: rest => do
      let f ← heldText filter
      match rest with
      | [] => .error (tooFew 1)
      | reason :: more => do
          let r ← heldText reason
          match more with
          | [] => .ok (f, r)
          | _ :: _ => .error (.wrongLength (2 + more.length) "2 elements in sequence")
  | [] => .error (tooFew 0)
where
  tooFew (n : Nat) : Fault :=
    .wrongLength n ("struct variant Decision::" ++ kind.title ++ " with 2 elements")

def heldBoth (kind : Kind) : Parts → Except Fault (String × String)
  | .entries parts => heldFields parts none none
  | .items parts => heldItems kind parts

def assemble : Kind → Parts → Except Fault Decision
  | .allow, .entries _ => .ok .allow
  | .allow, .items [] => .ok .allow
  | .allow, .items parts => .error (.wrongLength parts.length "0 elements in sequence")
  | .deny, parts => (heldBoth .deny parts).map fun p => .deny p.1 p.2
  | .error, parts => (heldBoth .error parts).map fun p => .error p.1 p.2

def kinds : List (String × Kind) := [("allow", .allow), ("deny", .deny), ("error", .error)]

open Json.Decoder

/-- One entry beside or at the kind. -/
def taggedEntry (room : Nat) (key : String) (state : Option Kind × List (String × Json))
    (cs : List Char) : Except Fault ((Option Kind × List (String × Json)) × List Char) :=
  if key = "decision" then
    match state.1 with
    | some _ => .error (.duplicateField "decision")
    | none => do
        let (kind, rest) ← named kinds room (← colon cs)
        .ok ((some kind, state.2), rest)
  else do
    let (value, rest) ← json room (← colon cs)
    .ok ((state.1, state.2 ++ [(key, value)]), rest)

def decoder : Json.Decoder Decision := fun room cs =>
  match Json.skipSpace cs with
  | [] => .error .endOfValue
  | c :: rest =>
      if c = '[' then
        match room with
        | 0 => .error .tooDeep
        | room + 1 => do
            match ← nextItem true rest with
            | none => .error (.missingField "decision")
            | some start =>
                let (kind, rest) ← named kinds room start
                let (parts, rest) ← items (json room) (rest.length + 1) false rest
                let rest ← closeList rest
                .ok (← assemble kind (.items parts), rest)
      else if c = '\x7b' then
        match room with
        | 0 => .error .tooDeep
        | room + 1 => do
            let ((kind, parts), rest) ← objectBody (taggedEntry room) (none, []) rest
            match kind with
            | none => .error (.missingField "decision")
            | some kind =>
                let rest ← closeObject rest
                .ok (← assemble kind (.entries parts), rest)
      else .error (mismatch "internally tagged enum Decision" cs)

end Decision

end Admission
