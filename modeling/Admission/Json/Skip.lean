import Admission.Json.Lexeme
/-!
Reading past a value that nobody asks for, at any depth. `stack` holds the containers that are
open, innermost first, with their closing characters.
-/

namespace Admission.Json

inductive Bracket where
  | list
  | object
  deriving DecidableEq, Repr

namespace Bracket

def close : Bracket → Char
  | .list => ']'
  | .object => '\x7d'

def missingComma : Bracket → Fault
  | .list => .expectedListComma
  | .object => .expectedObjectComma

def unclosed : Bracket → Fault
  | .list => .endOfList
  | .object => .endOfObject

end Bracket

/-- One key and its colon. -/
def skipKey (cs : List Char) : Except Fault (List Char) :=
  match skipSpace cs with
  | [] => .error .endOfObject
  | c :: cs =>
      if c ≠ '"' then .error .keyNotText
      else do
        let rest ← skipString cs
        match skipSpace rest with
        | [] => .error .endOfObject
        | c :: rest => if c = ':' then .ok rest else .error .expectedColon

inductive Opening where
  | value (rest : List Char)
  | container (bracket : Bracket) (rest : List Char)

/-- A value without parts, or the opening of a container. -/
def skipOpening (cs : List Char) : Except Fault Opening :=
  match skipSpace cs with
  | [] => .error .endOfValue
  | c :: cs =>
      if c = 'n' then .value <$> keyword ['u', 'l', 'l'] cs
      else if c = 't' then .value <$> keyword ['r', 'u', 'e'] cs
      else if c = 'f' then .value <$> keyword ['a', 'l', 's', 'e'] cs
      else if c = '-' then .value <$> skipNumber cs
      else if Text.isDigit c then .value <$> skipNumber (c :: cs)
      else if c = '"' then .value <$> skipString cs
      else if c = '[' then .ok (.container .list cs)
      else if c = '\x7b' then .ok (.container .object cs)
      else .error .expectedValue

/-- Before the next element: the key, if the container has keys. -/
def skipToValue : Bracket → List Char → Except Fault (List Char)
  | .list, cs => .ok cs
  | .object, cs => skipKey cs

inductive After where
  -- every container is closed
  | done (rest : List Char)
  -- an element follows in the innermost container
  | element (stack : List Bracket) (rest : List Char)

/-- After a value, or after an opening when `first`: closes what ends here. -/
def skipAfter (first : Bool) : List Bracket → List Char → Except Fault After
  | [], cs => .ok (.done cs)
  | b :: stack, cs =>
      match skipSpace cs with
      | [] => .error b.unclosed
      | c :: rest =>
          if c = b.close then skipAfter false stack rest
          else if first then .ok (.element (b :: stack) (c :: rest))
          else if c = ',' then .ok (.element (b :: stack) rest)
          else .error b.missingComma

/-- Each round reads at least one character, so the length of the text bounds the rounds. -/
def skipWith : Nat → List Bracket → List Char → Except Fault (List Char)
  | 0, _, _ => .error .endOfValue
  | fuel + 1, stack, cs => do
      let cs ← match stack with
        | [] => .ok cs
        | b :: _ => skipToValue b cs
      let after ← match ← skipOpening cs with
        | .value rest => skipAfter false stack rest
        | .container b rest => skipAfter true (b :: stack) rest
      match after with
      | .done rest => .ok rest
      | .element stack rest => skipWith fuel stack rest

def skipValue (cs : List Char) : Except Fault (List Char) := skipWith (cs.length + 1) [] cs

end Admission.Json
