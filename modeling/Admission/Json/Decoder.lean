import Admission.Json.Skip
/-!
Readers of typed values. A reader is given how many containers may still be opened and the
characters that are left; what it asks for decides which fault a wrong text is.
-/

namespace Admission.Json

variable {α β σ : Type}

abbrev Decoder (α : Type) := Nat → List Char → Except Fault (α × List Char)

/-- Nested containers a text may have where values are built. -/
def maxDepth : Nat := 127

namespace Decoder

def map (f : α → β) (d : Decoder α) : Decoder β :=
  fun room cs => (d room cs).map fun r => (f r.1, r.2)

/-- A value of some other kind: the fault names it, unless it is itself malformed. -/
def mismatch (expected : String) (cs : List Char) : Fault :=
  let named (found : Found) : Except Fault (List Char) → Fault
    | .ok _ => .wrongType found expected
    | .error fault => fault
  let numeral : Except Fault (Numeral × List Char) → Fault
    | .ok (.int n, _) => .wrongType (.int n) expected
    | .ok (.float x, _) => .wrongType (.float x) expected
    | .error fault => fault
  match skipSpace cs with
  | [] => .endOfValue
  | c :: cs =>
      if c = 'n' then named .null (keyword ['u', 'l', 'l'] cs)
      else if c = 't' then named (.bool true) (keyword ['r', 'u', 'e'] cs)
      else if c = 'f' then named (.bool false) (keyword ['a', 'l', 's', 'e'] cs)
      else if c = '-' then numeral (number true cs)
      else if Text.isDigit c then numeral (number false (c :: cs))
      else if c = '"' then
        match stringBody cs with
        | .ok (s, _) => .wrongType (.text (String.ofList s)) expected
        | .error fault => fault
      else if c = '[' then .wrongType .list expected
      else if c = '\x7b' then .wrongType .object expected
      else .expectedValue

def textFor (expected : String) : Decoder String := fun _ cs =>
  match skipSpace cs with
  | [] => .error .endOfValue
  | c :: rest =>
      if c = '"' then (stringBody rest).map fun r => (String.ofList r.1, r.2)
      else .error (mismatch expected cs)

def text : Decoder String := textFor "a string"

/-- A text that stands for something else. -/
def parsed (expected : String) (parse : String → Except String α) : Decoder α := fun room cs => do
  let (s, rest) ← textFor expected room cs
  match parse s with
  | .ok v => .ok (v, rest)
  | .error reason => .error (.malformed reason)

/-- A natural number below `limit`. -/
def natural (expected : String) (limit : Nat) : Decoder Nat := fun _ cs =>
  let checked : Except Fault (Numeral × List Char) → Except Fault (Nat × List Char)
    | .error fault => .error fault
    | .ok (.float x, _) => .error (.wrongType (.float x) expected)
    | .ok (.int n, rest) =>
        if 0 ≤ n ∧ n < limit then .ok (n.toNat, rest)
        else .error (.wrongValue (.int n) expected)
  match skipSpace cs with
  | [] => .error .endOfValue
  | c :: rest =>
      if c = '-' then checked (number true rest)
      else if Text.isDigit c then checked (number false (c :: rest))
      else .error (mismatch expected cs)

def word32 : Decoder Nat := natural "u32" UInt32.size

def word64 : Decoder Nat := natural "u64" UInt64.size

def optional (d : Decoder α) : Decoder (Option α) := fun room cs =>
  match skipSpace cs with
  | c :: rest =>
      if c = 'n' then (keyword ['u', 'l', 'l'] rest).map fun rest => (none, rest)
      else (d.map some) room cs
  | [] => (d.map some) room cs

/-- The start of the next element of a list, or `none` before its end. -/
def nextItem (first : Bool) (cs : List Char) : Except Fault (Option (List Char)) :=
  match skipSpace cs with
  | [] => .error .endOfList
  | c :: rest =>
      if c = ']' then .ok none
      else if first then .ok (some (c :: rest))
      else if c = ',' then
        match skipSpace rest with
        | [] => .error .endOfValue
        | c :: rest => if c = ']' then .error .trailingComma else .ok (some (c :: rest))
      else .error .expectedListComma

/-- The end of a list whose elements have been read. -/
def closeList (cs : List Char) : Except Fault (List Char) :=
  match skipSpace cs with
  | [] => .error .endOfList
  | c :: rest =>
      if c = ']' then .ok rest
      else if c = ',' then
        match skipSpace rest with
        | c :: _ => if c = ']' then .error .trailingComma else .error .trailingCharacters
        | [] => .error .trailingCharacters
      else .error .trailingCharacters

def items (item : List Char → Except Fault (α × List Char)) :
    Nat → Bool → List Char → Except Fault (List α × List Char)
  | 0, _, _ => .error .endOfList
  | fuel + 1, first, cs => do
      match ← nextItem first cs with
      | none => .ok ([], cs)
      | some cs =>
          let (x, rest) ← item cs
          let (xs, rest) ← items item fuel false rest
          .ok (x :: xs, rest)

/-- An element takes at least one character. -/
def listBody (item : List Char → Except Fault (α × List Char)) (cs : List Char) :
    Except Fault (List α × List Char) := do
  let (xs, rest) ← items item (cs.length + 1) true cs
  .ok (xs, ← closeList rest)

def list (d : Decoder α) : Decoder (List α) := fun room cs =>
  match skipSpace cs with
  | [] => .error .endOfValue
  | c :: rest =>
      if c = '[' then
        match room with
        | 0 => .error .tooDeep
        | room + 1 => listBody (d room) rest
      else .error (mismatch "a sequence" cs)

/-- The characters after the quote of the next key, or `none` before the end of the object. -/
def nextKey (first : Bool) (cs : List Char) : Except Fault (Option (List Char)) :=
  match skipSpace cs with
  | [] => .error .endOfObject
  | c :: rest =>
      if c = '\x7d' then .ok none
      else if first then if c = '"' then .ok (some rest) else .error .keyNotText
      else if c = ',' then
        match skipSpace rest with
        | [] => .error .endOfValue
        | c :: rest =>
            if c = '"' then .ok (some rest)
            else if c = '\x7d' then .error .trailingComma
            else .error .keyNotText
      else .error .expectedObjectComma

def colon (cs : List Char) : Except Fault (List Char) :=
  match skipSpace cs with
  | [] => .error .endOfObject
  | c :: rest => if c = ':' then .ok rest else .error .expectedColon

def closeObject (cs : List Char) : Except Fault (List Char) :=
  match skipSpace cs with
  | [] => .error .endOfObject
  | c :: rest =>
      if c = '\x7d' then .ok rest
      else if c = ',' then .error .trailingComma
      else .error .trailingCharacters

/-- Reads the entries of an object one by one into `state`. -/
def entries (entry : String → σ → List Char → Except Fault (σ × List Char)) :
    Nat → Bool → σ → List Char → Except Fault (σ × List Char)
  | 0, _, _, _ => .error .endOfObject
  | fuel + 1, first, state, cs => do
      match ← nextKey first cs with
      | none => .ok (state, cs)
      | some cs =>
          let (key, rest) ← stringBody cs
          let (state, rest) ← entry (String.ofList key) state rest
          entries entry fuel false state rest

/-- An entry takes at least one character. -/
def objectBody (entry : String → σ → List Char → Except Fault (σ × List Char)) (start : σ)
    (cs : List Char) : Except Fault (σ × List Char) :=
  entries entry (cs.length + 1) true start cs

/-- The last entry of a key counts. -/
def tableEntry (item : List Char → Except Fault (α × List Char)) (key : String)
    (t : Table String α) (cs : List Char) : Except Fault (Table String α × List Char) := do
  let (v, rest) ← item (← colon cs)
  .ok (t.insert Text.order key v, rest)

def tableBody (item : List Char → Except Fault (α × List Char)) (cs : List Char) :
    Except Fault (Table String α × List Char) := do
  let (t, rest) ← objectBody (tableEntry item) [] cs
  .ok (t, ← closeObject rest)

def table (d : Decoder α) : Decoder (Table String α) := fun room cs =>
  match skipSpace cs with
  | [] => .error .endOfValue
  | c :: rest =>
      if c = '\x7b' then
        match room with
        | 0 => .error .tooDeep
        | room + 1 => tableBody (d room) rest
      else .error (mismatch "a map" cs)

def ofNumeral : Numeral → Json
  | .int n => .int n
  | .float x => .float x

/-- Any value. Only containers use up room. -/
def json : Decoder Json := fun room cs =>
  match skipSpace cs with
  | [] => .error .endOfValue
  | c :: rest =>
      if c = 'n' then (keyword ['u', 'l', 'l'] rest).map fun rest => (.null, rest)
      else if c = 't' then (keyword ['r', 'u', 'e'] rest).map fun rest => (.bool true, rest)
      else if c = 'f' then (keyword ['a', 'l', 's', 'e'] rest).map fun rest => (.bool false, rest)
      else if c = '-' then (number true rest).map fun r => (ofNumeral r.1, r.2)
      else if Text.isDigit c then (number false (c :: rest)).map fun r => (ofNumeral r.1, r.2)
      else if c = '"' then (stringBody rest).map fun r => (.text (String.ofList r.1), r.2)
      else if c = '[' then
        match room with
        | 0 => .error .tooDeep
        | room + 1 => (listBody (json room) rest).map fun r => (.list r.1, r.2)
      else if c = '\x7b' then
        match room with
        | 0 => .error .tooDeep
        | room + 1 => (tableBody (json room) rest).map fun r => (.object r.1, r.2)
      else .error .expectedValue
termination_by structural room => room

/-- What an identifier or a `null` stands for, in one of the two forms a choice can have. -/
def unit : Decoder Unit := fun _ cs =>
  match skipSpace cs with
  | [] => .error .endOfValue
  | c :: rest =>
      if c = 'n' then (keyword ['u', 'l', 'l'] rest).map fun rest => ((), rest)
      else .error (mismatch "unit" cs)

def named (variants : List (String × α)) : Decoder α := fun room cs => do
  let (name, rest) ← textFor "variant identifier" room cs
  match variants.lookup name with
  | some v => .ok (v, rest)
  | none => .error (.unknownVariant name (variants.map (·.1)))

/-- One of several names, alone or as the only key of an object that holds `null`. -/
def choice (variants : List (String × α)) : Decoder α := fun room cs =>
  match skipSpace cs with
  | [] => .error .endOfValue
  | c :: rest =>
      if c = '"' then named variants room cs
      else if c = '\x7b' then
        match room with
        | 0 => .error .tooDeep
        | room + 1 => do
            let (v, rest) ← named variants room rest
            let (_, rest) ← unit room (← colon rest)
            match skipSpace rest with
            | [] => .error .endOfObject
            | c :: rest => if c = '\x7d' then .ok (v, rest) else .error .expectedValue
      else .error .expectedValue

/-- The whole text is one value. -/
def run (d : Decoder α) (s : String) : Except Fault α := do
  let (v, rest) ← d maxDepth s.toList
  match skipSpace rest with
  | [] => .ok v
  | _ :: _ => .error .trailingCharacters

end Decoder

end Admission.Json
