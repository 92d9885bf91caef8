import Admission.Yaml.Token
/-!
The tree of a YAML document. An alias keeps the number of its anchor; `Document.resolve` gives
the node that the number stands for.
-/

namespace Admission.Yaml

inductive Node where
  | scalar (tag : Option (List Char)) (style : Style) (text : List Char)
  | sequence (tag : Option (List Char)) (items : List Node)
  | mapping (tag : Option (List Char)) (entries : List (Node × Node))
  | alias (anchor : Nat)
  deriving Inhabited

namespace Node

-- What stands where nothing is written.
def nothing : Node := .scalar none .plain []

end Node

-- Where anchors are kept while a document is read. A name that is defined again takes the next
-- number, which the next new name takes too; the last definition of a number is what it stands for.
structure Anchors where
  numbers : List (List Char × Nat) := []
  definitions : Nat := 0
  latest : List (Nat × Nat) := []
  nodes : List (Nat × Node) := []

namespace Anchors

def names (a : Anchors) : List (List Char) := (a.numbers.map (·.1)).eraseDups

-- Begins the definition of a name.
def define (name : List Char) (a : Anchors) : Nat × Anchors :=
  let number := a.names.length
  (a.definitions,
    { a with
      numbers := (name, number) :: a.numbers
      definitions := a.definitions + 1
      latest := (number, a.definitions) :: a.latest })

def complete (definition : Nat) (n : Node) (a : Anchors) : Anchors :=
  { a with nodes := (definition, n) :: a.nodes }

def number? (name : List Char) (a : Anchors) : Option Nat := a.numbers.lookup name

def node? (number : Nat) (a : Anchors) : Option Node := do
  let definition ← a.latest.lookup number
  a.nodes.lookup definition

end Anchors

structure Properties where
  anchor : Option (List Char) := none
  tag : Option WrittenTag := none

def properties : List Token → Properties × List Token
  | .anchor name :: .tag t :: rest => (⟨some name, some t⟩, rest)
  | .tag t :: .anchor name :: rest => (⟨some name, some t⟩, rest)
  | .anchor name :: rest => (⟨some name, none⟩, rest)
  | .tag t :: rest => (⟨none, some t⟩, rest)
  | ts => ({}, ts)

-- A lone exclamation mark says nothing about a scalar.
def scalarTag (tag : Option (List Char)) : Option (List Char) :=
  if tag = some ['!'] then none else tag

abbrev Handles := List (List Char × List Char)

inductive Place where
  -- where blocks can begin
  | block
  -- where a list can stand without being indented further
  | blockEntry
  | flow
  deriving DecidableEq

-- What is left beside a result.
abbrev Left := Anchors × List Token

-- No content comes before one of these.
def endsKeyOrValue : List Token → Bool
  | .key :: _ => true
  | .value :: _ => true
  | .blockEnd :: _ => true
  | [] => true
  | _ => false

def endsItem : List Token → Bool
  | .blockEntry :: _ => true
  | .blockEnd :: _ => true
  | [] => true
  | _ => false

def endsPlainItem (ts : List Token) : Bool := endsItem ts || endsKeyOrValue ts

def endsFlowKey : List Token → Bool
  | .value :: _ => true
  | .flowEntry :: _ => true
  | .flowMappingEnd :: _ => true
  | .flowSequenceEnd :: _ => true
  | [] => true
  | _ => false

def endsFlowValue : List Token → Bool
  | .flowEntry :: _ => true
  | .flowMappingEnd :: _ => true
  | .flowSequenceEnd :: _ => true
  | [] => true
  | _ => false

mutual

-- One node with its properties. A node without content has to have properties.
def node (handles : Handles) : Nat → Place → Anchors → List Token → Option (Node × Left)
  | 0, _, _, _ => none
  | _ + 1, _, a, .alias name :: rest => do some (.alias (← a.number? name), a, rest)
  | fuel + 1, place, a, ts => do
      let (p, ts) := properties ts
      let tag ← match p.tag with
        | none => some none
        | some t => (resolveTag handles t).map some
      match p.anchor with
      | none => content handles fuel place p.tag.isSome tag a ts
      | some name =>
          let (definition, a) := a.define name
          let (n, a, rest) ← content handles fuel place true tag a ts
          some (n, a.complete definition n, rest)

def content (handles : Handles) : Nat → Place → Bool → Option (List Char) → Anchors →
    List Token → Option (Node × Left)
  | 0, _, _, _, _, _ => none
  | fuel + 1, place, mayBeEmpty, tag, a, ts =>
      match ts with
      | .scalar style text :: rest => some (.scalar (scalarTag tag) style text, a, rest)
      | .flowSequence :: rest => do
          let (items, a, rest) ← flowItems handles fuel true a rest
          some (.sequence tag items, a, rest)
      | .flowMapping :: rest => do
          let (entries, a, rest) ← flowEntries handles fuel true a rest
          some (.mapping tag entries, a, rest)
      | .blockEntry :: rest =>
          if place = .blockEntry then do
            let (items, a, rest) ← plainItems handles fuel a (.blockEntry :: rest)
            some (.sequence tag items, a, rest)
          else if mayBeEmpty then some (.scalar tag .plain [], a, ts) else none
      | .blockSequence :: rest =>
          if place ≠ .flow then do
            let (items, a, rest) ← blockItems handles fuel a rest
            some (.sequence tag items, a, rest)
          else if mayBeEmpty then some (.scalar tag .plain [], a, ts) else none
      | .blockMapping :: rest =>
          if place ≠ .flow then do
            let (entries, a, rest) ← blockEntries handles fuel a rest
            some (.mapping tag entries, a, rest)
          else if mayBeEmpty then some (.scalar tag .plain [], a, ts) else none
      | ts => if mayBeEmpty then some (.scalar tag .plain [], a, ts) else none

-- The items of an indented list, up to the end of its block.
def blockItems (handles : Handles) : Nat → Anchors → List Token → Option (List Node × Left)
  | 0, _, _ => none
  | fuel + 1, a, ts =>
      match ts with
      | .blockEntry :: rest => do
          let (n, a, rest) ←
            if endsItem rest then some (Node.nothing, a, rest)
            else node handles fuel .block a rest
          let (ns, a, rest) ← blockItems handles fuel a rest
          some (n :: ns, a, rest)
      | .blockEnd :: rest => some ([], a, rest)
      | _ => none

-- The items of a list that stands at the column of its key, up to anything else.
def plainItems (handles : Handles) : Nat → Anchors → List Token → Option (List Node × Left)
  | 0, _, _ => none
  | fuel + 1, a, ts =>
      match ts with
      | .blockEntry :: rest => do
          let (n, a, rest) ←
            if endsPlainItem rest then some (Node.nothing, a, rest)
            else node handles fuel .block a rest
          let (ns, a, rest) ← plainItems handles fuel a rest
          some (n :: ns, a, rest)
      | ts => some ([], a, ts)

def blockEntries (handles : Handles) : Nat → Anchors → List Token →
    Option (List (Node × Node) × Left)
  | 0, _, _ => none
  | fuel + 1, a, ts =>
      match ts with
      | .key :: rest => do
          let (k, a, rest) ←
            if endsKeyOrValue rest then some (Node.nothing, a, rest)
            else node handles fuel .blockEntry a rest
          let (v, a, rest) ← match rest with
            | .value :: rest =>
                if endsKeyOrValue rest then some (Node.nothing, a, rest)
                else node handles fuel .blockEntry a rest
            | rest => some (Node.nothing, a, rest)
          let (es, a, rest) ← blockEntries handles fuel a rest
          some ((k, v) :: es, a, rest)
      | .blockEnd :: rest => some ([], a, rest)
      | _ => none

-- A key, where one is marked or not, and its value among flow entries.
def flowPair (handles : Handles) : Nat → Anchors → List Token → Option ((Node × Node) × Left)
  | 0, _, _ => none
  | fuel + 1, a, ts => do
      let (k, a, rest) ←
        if endsFlowKey ts then some (Node.nothing, a, ts) else node handles fuel .flow a ts
      match rest with
      | .value :: rest =>
          let (v, a, rest) ←
            if endsFlowValue rest then some (Node.nothing, a, rest)
            else node handles fuel .flow a rest
          some ((k, v), a, rest)
      | rest => some ((k, Node.nothing), a, rest)

def flowItems (handles : Handles) : Nat → Bool → Anchors → List Token → Option (List Node × Left)
  | 0, _, _, _ => none
  | fuel + 1, first, a, ts =>
      match ts with
      | .flowSequenceEnd :: rest => some ([], a, rest)
      | ts => do
          let ts ← match first, ts with
            | true, ts => some ts
            | false, .flowEntry :: rest => some rest
            | false, _ => none
          match ts with
          | .flowSequenceEnd :: rest => some ([], a, rest)
          | .key :: rest => do
              let (pair, a, rest) ← flowPair handles fuel a rest
              let (ns, a, rest) ← flowItems handles fuel false a rest
              some (.mapping none [pair] :: ns, a, rest)
          | ts => do
              let (n, a, rest) ← node handles fuel .flow a ts
              let (ns, a, rest) ← flowItems handles fuel false a rest
              some (n :: ns, a, rest)

def flowEntries (handles : Handles) : Nat → Bool → Anchors → List Token →
    Option (List (Node × Node) × Left)
  | 0, _, _, _ => none
  | fuel + 1, first, a, ts =>
      match ts with
      | .flowMappingEnd :: rest => some ([], a, rest)
      | ts => do
          let ts ← match first, ts with
            | true, ts => some ts
            | false, .flowEntry :: rest => some rest
            | false, _ => none
          match ts with
          | .flowMappingEnd :: rest => some ([], a, rest)
          | .key :: rest => do
              let (pair, a, rest) ← flowPair handles fuel a rest
              let (es, a, rest) ← flowEntries handles fuel false a rest
              some (pair :: es, a, rest)
          | ts => do
              let (k, a, rest) ← node handles fuel .flow a ts
              let (es, a, rest) ← flowEntries handles fuel false a rest
              some ((k, Node.nothing) :: es, a, rest)

end

/-! Documents. -/

structure Document where
  root : Node
  anchors : Anchors

-- The node itself or what it is an alias of.
def Document.resolve (d : Document) : Node → Option Node
  | .alias number => d.anchors.node? number
  | n => some n

-- The handles that directives define in addition to the usual ones; a version of 1.1 or 1.2.
def directives : Bool → Handles → List Token → Option (Handles × List Token)
  | versioned, handles, .directive (.version major minor) :: rest =>
      if versioned ∨ major ≠ 1 ∨ (minor ≠ 1 ∧ minor ≠ 2) then none
      else directives true handles rest
  | versioned, handles, .directive (.tag handle start) :: rest =>
      if (handles.lookup handle).isSome then none
      else directives versioned ((handle, start) :: handles) rest
  | _, handles, ts => some (handles, ts)

def dropEnds : List Token → List Token
  | .documentEnd :: rest => dropEnds rest
  | ts => ts

-- A start that is written may be followed by nothing.
def rootNode (handles : Handles) (ts : List Token) : Option (Node × Left) :=
  match ts with
  | [] => some (Node.nothing, {}, [])
  | .documentStart :: _ => some (Node.nothing, {}, ts)
  | .documentEnd :: _ => some (Node.nothing, {}, ts)
  | .directive _ :: _ => some (Node.nothing, {}, ts)
  | ts => node handles (4 * ts.length + 4) .block {} ts

-- A text with one document, which nothing but ends of documents follows. A text without any
-- content is an empty document.
def Document.ofTokens? (ts : List Token) : Option Document := do
  let (root, anchors, rest) ←
    match ts with
    | [] => some (Node.nothing, {}, [])
    | .directive _ :: _ => written ts
    | .documentStart :: _ => written ts
    | ts => node defaultHandles (4 * ts.length + 4) .block {} ts
  if dropEnds rest = [] then some ⟨root, anchors⟩ else none
where
  written (ts : List Token) : Option (Node × Left) := do
    let (handles, rest) ← directives false [] ts
    match rest with
    | .documentStart :: rest => rootNode (handles ++ defaultHandles) rest
    | _ => none

def Document.parse? (cs : List Char) : Option Document := do
  Document.ofTokens? (← Token.scan cs)

end Admission.Yaml
