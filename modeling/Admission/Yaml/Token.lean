import Admission.Yaml.Tag
/-!
The tokens of a YAML text. Blocks are told by indentation, so their beginnings and ends are
tokens that no character stands for. That something is a key is seen at the colon behind it;
its token is then put in where the key began.
-/

namespace Admission.Yaml

inductive Token where
  | directive (d : Directive)
  | documentStart
  | documentEnd
  | blockSequence
  | blockMapping
  | blockEnd
  | flowSequence
  | flowSequenceEnd
  | flowMapping
  | flowMappingEnd
  | blockEntry
  | flowEntry
  | key
  | value
  | alias (name : List Char)
  | anchor (name : List Char)
  | tag (t : WrittenTag)
  | scalar (style : Style) (text : List Char)
  deriving DecidableEq, Repr

-- A place where a key may have begun: the number of tokens before it, and where it stands.
structure KeyStart where
  tokens : Nat
  index : Nat
  line : Nat
  column : Nat
  -- in a block mapping a line that begins at its indentation has to be a key
  required : Bool
  deriving Repr

structure Scanner where
  cursor : Cursor
  -- columns of the open blocks, innermost first; -1 outside of all
  indent : Int := -1
  outerIndents : List Int := []
  -- where a key may have begun in the current collection and in those around it
  keyStart : Option KeyStart := none
  outerKeys : List (Option KeyStart) := []
  keyAllowed : Bool := true
  -- newest first
  tokens : List Token := []
  deriving Repr

namespace Scanner

def inFlow (s : Scanner) : Bool := !s.outerKeys.isEmpty

def emit (t : Token) (s : Scanner) : Scanner := { s with tokens := t :: s.tokens }

def insertAt (t : Token) : Nat → List Token → List Token
  | 0, ts => t :: ts
  | _ + 1, [] => [t]
  | n + 1, u :: ts => u :: insertAt t n ts

-- A token that comes after `before` of the tokens there are.
def emitAt (before : Nat) (t : Token) (s : Scanner) : Scanner :=
  { s with tokens := insertAt t (s.tokens.length - before) s.tokens }

-- Opens a block whose entries stand at a column, unless they are further left than that.
def openBlock (column : Nat) (before : Nat) (t : Token) (s : Scanner) : Scanner :=
  if s.inFlow ∨ (column : Int) ≤ s.indent then s
  else { s.emitAt before t with indent := column, outerIndents := s.indent :: s.outerIndents }

-- Closes the blocks that stand right of a column.
def closeBlocks (column : Int) (s : Scanner) : Scanner :=
  if s.inFlow then s else go s s.outerIndents
where
  go (s : Scanner) : List Int → Scanner
    | [] => s
    | outer :: rest =>
        if s.indent ≤ column then s
        else go { s.emit .blockEnd with indent := outer, outerIndents := rest } rest

-- Gives up the possible key of the current collection, if nothing demands it.
def dropKey (s : Scanner) : Option Scanner :=
  if s.keyStart.any (·.required) then none else some { s with keyStart := none }

def saveKey (s : Scanner) : Option Scanner :=
  if !s.keyAllowed then some s
  else do
    let s ← s.dropKey
    some { s with
      keyStart := some
        { tokens := s.tokens.length
          index := s.cursor.index
          line := s.cursor.line
          column := s.cursor.column
          required := !s.inFlow && s.indent == s.cursor.column } }

-- A key stands on one line and has no more than 1024 characters.
def isStale (c : Cursor) (k : KeyStart) : Bool := k.line < c.line || k.index + 1024 < c.index

def dropStale (s : Scanner) : Option Scanner := do
  let fresh (k : Option KeyStart) : Option (Option KeyStart) :=
    match k with
    | none => some none
    | some k =>
        if !isStale s.cursor k then some (some k)
        else if k.required then none
        else some none
  some { s with keyStart := ← fresh s.keyStart, outerKeys := ← s.outerKeys.mapM fresh }

-- Past blanks, comments and line breaks. Tabs are no indentation.
def skipGap : Nat → Scanner → Scanner
  | 0, s => s
  | fuel + 1, s =>
      let c := if s.cursor.index = 0 ∧ (s.cursor.rest.head?.map (·.toNat)) = some 0xFEFF
        then s.cursor.skip 1 else s.cursor
      let c := c.skipWhile fun d => d == ' ' || ((s.inFlow || !s.keyAllowed) && d == '\t')
      let c := if c.rest.head? = some '#' then c.skipWhile fun d => !isBreak d else c
      if (c.rest.head?.map isBreak).getD false then
        skipGap fuel { s with cursor := c.takeBreak.2, keyAllowed := s.keyAllowed || !s.inFlow }
      else { s with cursor := c }

def moveTo (c : Cursor) (s : Scanner) : Scanner := { s with cursor := c }

def step (n : Nat) (s : Scanner) : Scanner := s.moveTo (s.cursor.skip n)

-- What stands at the beginning of a line and belongs to no block.
def atLineStart (s : Scanner) : Option Scanner := do
  let s ← (s.closeBlocks (-1)).dropKey
  some { s with keyAllowed := false }

def directive (s : Scanner) : Option Scanner := do
  let s ← s.atLineStart
  let (d, after) ← scanDirective s.cursor
  some ((s.moveTo after).emit (.directive d))

def documentMark (t : Token) (s : Scanner) : Option Scanner := do
  let s ← s.atLineStart
  some ((s.emit t).step 3)

def flowOpen (t : Token) (s : Scanner) : Option Scanner := do
  let s ← s.saveKey
  some { (s.emit t).step 1 with
    keyStart := none, outerKeys := s.keyStart :: s.outerKeys, keyAllowed := true }

def flowClose (t : Token) (s : Scanner) : Option Scanner := do
  let s ← s.dropKey
  let s := match s.outerKeys with
    | [] => s
    | k :: rest => { s with keyStart := k, outerKeys := rest }
  some { (s.emit t).step 1 with keyAllowed := false }

def flowEntry (s : Scanner) : Option Scanner := do
  let s ← s.dropKey
  some { (s.emit .flowEntry).step 1 with keyAllowed := true }

-- Where an entry or key of a block may stand.
def blockPlace (t : Token) (s : Scanner) : Option Scanner :=
  if s.inFlow then some s
  else if !s.keyAllowed then none
  else some (s.openBlock s.cursor.column s.tokens.length t)

def blockEntry (s : Scanner) : Option Scanner := do
  let s ← s.blockPlace .blockSequence
  let s ← s.dropKey
  some { (s.emit .blockEntry).step 1 with keyAllowed := true }

def explicitKey (s : Scanner) : Option Scanner := do
  let s ← s.blockPlace .blockMapping
  let s ← s.dropKey
  some { (s.emit .key).step 1 with keyAllowed := !s.inFlow }

def value (s : Scanner) : Option Scanner :=
  match s.keyStart with
  | some k =>
      let s := (s.emitAt k.tokens .key).openBlock k.column k.tokens .blockMapping
      some { (s.emit .value).step 1 with keyStart := none, keyAllowed := false }
  | none => do
      let s ← s.blockPlace .blockMapping
      some { (s.emit .value).step 1 with keyAllowed := !s.inFlow }

-- What a name of an anchor can be followed by.
def endsName (cs : List Char) : Bool :=
  atGap cs ||
    (cs.head?.map fun c => c == '?' || c == ':' || c == ',' || c == ']' || c == '\x7d' ||
      c == '%' || c == '@' || c == '`').getD false

def named (t : List Char → Token) (s : Scanner) : Option Scanner := do
  let s ← s.saveKey
  let (name, after) := (s.cursor.skip 1).word isWordChar
  if name = [] ∨ !endsName after.rest then none
  some { (s.emit (t name)).moveTo after with keyAllowed := false }

def tagged (s : Scanner) : Option Scanner := do
  let s ← s.saveKey
  let (t, after) ← scanTag s.inFlow s.cursor
  some { (s.emit (.tag t)).moveTo after with keyAllowed := false }

def quoted (q : Quote) (s : Scanner) : Option Scanner := do
  let s ← s.saveKey
  let (text, after) ← scanQuoted q (s.cursor.skip 1)
  some { (s.emit (.scalar .quoted text)).moveTo after with keyAllowed := false }

def block (style : Style) (s : Scanner) : Option Scanner := do
  let s ← s.dropKey
  let (text, after) ← scanBlock (style == .literal) s.indent (s.cursor.skip 1)
  some { (s.emit (.scalar style text)).moveTo after with keyAllowed := true }

def plain (s : Scanner) : Option Scanner := do
  let s ← s.saveKey
  let (p, after) ← scanPlain s.inFlow (s.indent + 1).toNat s.cursor
  some { (s.emit (.scalar .plain p.text)).moveTo after with keyAllowed := p.endsLine }

def startsNothing (c : Char) : Bool :=
  c == '-' || c == '?' || c == ':' || isFlowMark c || c == '#' || c == '&' || c == '*' ||
    c == '!' || c == '|' || c == '>' || c == singleMark || c == '"' || c == '%' || c == '@' ||
    c == '`'

-- One token, told by the characters it begins with.
def token (s : Scanner) (c : Char) (rest : List Char) : Option Scanner :=
  if s.cursor.column = 0 ∧ c = '%' then s.directive
  else if s.cursor.atDocumentMark '-' then s.documentMark .documentStart
  else if s.cursor.atDocumentMark '.' then s.documentMark .documentEnd
  else if c = '[' then s.flowOpen .flowSequence
  else if c = '\x7b' then s.flowOpen .flowMapping
  else if c = ']' then s.flowClose .flowSequenceEnd
  else if c = '\x7d' then s.flowClose .flowMappingEnd
  else if c = ',' then s.flowEntry
  else if c = '-' ∧ atGap rest then s.blockEntry
  else if c = '?' ∧ (s.inFlow ∨ atGap rest) then s.explicitKey
  else if c = ':' ∧ (s.inFlow ∨ atGap rest) then s.value
  else if c = '*' then s.named .alias
  else if c = '&' then s.named .anchor
  else if c = '!' then s.tagged
  else if c = '|' ∧ !s.inFlow then s.block .literal
  else if c = '>' ∧ !s.inFlow then s.block .folded
  else if c = singleMark then s.quoted .single
  else if c = '"' then s.quoted .double
  else if !isGap c ∧ !startsNothing c then s.plain
  else if c = '-' ∧ !(rest.head?.map isBlank).getD false then s.plain
  else if !s.inFlow ∧ (c = '?' ∨ c = ':') ∧ !atGap rest then s.plain
  else none

-- At the end every block is closed.
def finish (s : Scanner) : Option (List Token) := do
  let s ← (s.closeBlocks (-1)).dropKey
  some s.tokens.reverse

-- Each token takes at least one character.
def run : Nat → Scanner → Option (List Token)
  | 0, _ => none
  | fuel + 1, s => do
      let s ← (s.skipGap (s.cursor.rest.length + 1)).dropStale
      let s := s.closeBlocks s.cursor.column
      match s.cursor.rest with
      | [] => s.finish
      | c :: rest => run fuel (← s.token c rest)

end Scanner

-- A byte order mark in front is no character of the text.
def withoutMark : List Char → List Char
  | [] => []
  | c :: rest => if c.toNat = 0xFEFF then rest else c :: rest

def Token.scan (cs : List Char) : Option (List Token) :=
  let cs := withoutMark cs
  if cs.all admitted then Scanner.run (cs.length + 2) { cursor := { rest := cs } } else none

end Admission.Yaml
