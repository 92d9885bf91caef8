import Admission.Text.Digit
import Admission.Yaml.Cursor
/-!
Scalars of every style, from a place where one begins to the place behind it. Lines of a scalar
are folded: a single line break becomes a blank, and of several the first one is dropped.
-/

namespace Admission.Yaml

inductive Style where
  | plain
  | quoted
  | literal
  | folded
  deriving DecidableEq, Repr

-- What separates two words of a scalar.
inductive Gap where
  | blanks (cs : List Char)
  | breaks (first more : List Char)
  deriving DecidableEq, Repr

namespace Gap

def none : Gap := .blanks []

def hasBreak : Gap → Bool
  | .blanks _ => false
  | .breaks _ _ => true

def folded : Gap → List Char
  | .blanks cs => cs
  | .breaks first more =>
      if first = ['\n'] then if more = [] then [' '] else more else first ++ more

-- One more blank or break. Blanks at the beginning of a line are no content.
def addBlank (c : Char) : Gap → Gap
  | .blanks cs => .blanks (cs ++ [c])
  | gap => gap

def addBreak (c : List Char) : Gap → Gap
  | .blanks _ => .breaks c []
  | .breaks first more => .breaks first (more ++ c)

end Gap

-- Blanks and breaks. Where there is an indentation, no tab may stand within it.
def scanGap (indent : Option Nat) : Nat → Gap → Cursor → Option (Gap × Cursor)
  | 0, gap, c => some (gap, c)
  | fuel + 1, gap, c =>
      match c.rest with
      | [] => some (gap, c)
      | d :: _ =>
          if isBlank d then
            if d = '\t' ∧ gap.hasBreak ∧ indent.any (c.column < ·) then Option.none
            else scanGap indent fuel (gap.addBlank d) (c.skip 1)
          else if isBreak d then
            let (lineEnd, after) := c.takeBreak
            scanGap indent fuel (gap.addBreak lineEnd) after
          else some (gap, c)

/-! Plain scalars. -/

-- Where a colon cannot stand before a character among flow entries.
def clashesWithColon (c : Char) : Bool := isFlowMark c || c == '?'

-- The characters up to a gap or an indicator.
def plainWord (flow : Bool) : List Char → Option (List Char)
  | [] => some []
  | c :: rest =>
      if isGap c then some []
      else if c = ':' ∧ flow ∧ (rest.head?.map clashesWithColon).getD false then none
      else if c = ':' ∧ atGap rest then some []
      else if flow ∧ isFlowMark c then some []
      else (plainWord flow rest).map (c :: ·)

structure Plain where
  text : List Char
  -- a line break stands between the scalar and what follows
  endsLine : Bool
  deriving Repr

def plainFrom (flow : Bool) (indent : Nat) :
    Nat → List Char → Gap → Cursor → Option (Plain × Cursor)
  | 0, text, gap, c => some (⟨text, gap.hasBreak⟩, c)
  | fuel + 1, text, gap, c =>
      if c.atDocumentEdge ∨ c.rest.head? = some '#' then some (⟨text, gap.hasBreak⟩, c)
      else do
        let word ← plainWord flow c.rest
        let (text, gap) := if word = [] then (text, gap) else (text ++ gap.folded ++ word, Gap.none)
        let c := c.skip word.length
        if (c.rest.head?.map isGap).getD false then
          let (gap, c) ← scanGap (some indent) c.rest.length gap c
          if !flow ∧ c.column < indent then some (⟨text, gap.hasBreak⟩, c)
          else plainFrom flow indent fuel text gap c
        else some (⟨text, gap.hasBreak⟩, c)

-- `indent` is the least column of a continued line.
def scanPlain (flow : Bool) (indent : Nat) (c : Cursor) : Option (Plain × Cursor) :=
  plainFrom flow indent (c.rest.length + 1) [] Gap.none c

/-! Quoted scalars. -/

inductive Quote where
  | single
  | double
  deriving DecidableEq, Repr

def singleMark : Char := Char.ofNat 0x27

def Quote.mark : Quote → Char
  | .single => singleMark
  | .double => '"'

def escaped (c : Char) : Option Char :=
  if c = '0' then some (Char.ofNat 0)
  else if c = 'a' then some (Char.ofNat 0x07)
  else if c = 'b' then some (Char.ofNat 0x08)
  else if c = 't' ∨ c = '\t' then some '\t'
  else if c = 'n' then some '\n'
  else if c = 'v' then some (Char.ofNat 0x0B)
  else if c = 'f' then some (Char.ofNat 0x0C)
  else if c = 'r' then some '\r'
  else if c = 'e' then some (Char.ofNat 0x1B)
  else if c = ' ' ∨ c = '"' ∨ c = '/' ∨ c = '\\' then some c
  else if c = 'N' then some (Char.ofNat 0x85)
  else if c = '_' then some (Char.ofNat 0xA0)
  else if c = 'L' then some (Char.ofNat 0x2028)
  else if c = 'P' then some (Char.ofNat 0x2029)
  else none

def escapeDigits (c : Char) : Option Nat :=
  if c = 'x' then some 2 else if c = 'u' then some 4 else if c = 'U' then some 8 else none

def hexNumber (count : Nat) (cs : List Char) : Option Nat :=
  if cs.length < count then none
  else Text.numberFrom 16 0 (cs.take count)

-- No surrogate and nothing beyond the last character.
def charOf (n : Nat) : Option Char := if n.isValidChar then some (Char.ofNat n) else none

-- The pieces of a quoted scalar.
inductive Piece where
  | char (c : Char) (length : Nat)
  -- an escaped line break: the lines are joined
  | joined
  -- the closing quote
  | close
  -- a blank or a break
  | gap

def piece (q : Quote) : List Char → Option Piece
  | [] => none
  | c :: rest =>
      if isGap c then some .gap
      else if c = q.mark then
        if q = .single ∧ rest.head? = some singleMark then some (.char singleMark 2)
        else some .close
      else if q = .double ∧ c = '\\' then
        match rest with
        | [] => none
        | d :: digits =>
            if isBreak d then some .joined
            else match escapeDigits d with
              | some count => do
                  let n ← hexNumber count digits
                  return .char (← charOf n) (2 + count)
              | none => (escaped d).map (.char · 2)
      else some (.char c 1)

-- A document cannot end inside quotes, so a line there must not begin like its end.
def quotedFrom (q : Quote) : Nat → List Char → Cursor → Option (List Char × Cursor)
  | 0, _, _ => none
  | fuel + 1, text, c =>
      if c.atDocumentEdge then none
      else do
        match ← piece q c.rest with
        | .char d length => quotedFrom q fuel (text ++ [d]) (c.skip length)
        | .close => some (text, c.skip 1)
        | .joined =>
            let (gap, c) ← scanGap none c.rest.length (.breaks [] []) (c.skip 1).takeBreak.2
            quotedFrom q fuel (text ++ gap.folded) c
        | .gap =>
            let (gap, c) ← scanGap none c.rest.length Gap.none c
            quotedFrom q fuel (text ++ gap.folded) c

-- From behind the opening quote.
def scanQuoted (q : Quote) (c : Cursor) : Option (List Char × Cursor) :=
  quotedFrom q (c.rest.length + 1) [] c

/-! Block scalars. -/

inductive Chomp where
  | strip
  | clip
  | keep
  deriving DecidableEq, Repr

structure Header where
  chomp : Chomp := .clip
  increment : Option Nat := none
  deriving Repr

def chompMark (c : Char) : Option Chomp :=
  if c = '+' then some .keep else if c = '-' then some .strip else none

-- Chomping and indentation in either order; an indentation of zero is none.
def blockHeader (c : Cursor) : Option (Header × Cursor) :=
  let chomp? (c : Cursor) : Option Chomp × Cursor :=
    match c.rest.head?.bind chompMark with
    | some chomp => (some chomp, c.skip 1)
    | none => (none, c)
  let increment? (c : Cursor) : Option Nat × Cursor :=
    match c.rest.head?.bind Text.digit with
    | some n => (some n, c.skip 1)
    | none => (none, c)
  let (chomp, c) := chomp? c
  let (increment, c) := increment? c
  let (chomp, c) := if chomp.isNone ∧ increment.isSome then chomp? c else (chomp, c)
  if increment = some 0 then none
  else some (⟨chomp.getD .clip, increment⟩, c)

structure Leading where
  breaks : List Char
  widest : Nat

-- Empty lines and the indentation of the next line. Without a known indentation all blanks count.
def blockBreaks (indent : Option Nat) : Nat → Leading → Cursor → Option (Leading × Cursor)
  | 0, found, c => some (found, c)
  | fuel + 1, found, c =>
      let blanks := (c.rest.takeWhile (· == ' ')).length
      let c := c.skip (match indent with
        | none => blanks
        | some n => min blanks (n - c.column))
      let found := { found with widest := max found.widest c.column }
      if c.rest.head? = some '\t' ∧ (indent.all (c.column < ·)) then none
      else if (c.rest.head?.map isBreak).getD false then
        let (lineEnd, after) := c.takeBreak
        blockBreaks indent fuel { found with breaks := found.breaks ++ lineEnd } after
      else some (found, c)

structure BlockState where
  text : List Char := []
  lineEnd : List Char := []
  breaks : List Char
  leadingBlank : Bool := false

-- The line breaks before a line: one that joins two full lines of a folded scalar is a blank.
def blockJoin (literal trailingBlank : Bool) (s : BlockState) : List Char :=
  (if !literal ∧ s.lineEnd = ['\n'] ∧ !s.leadingBlank ∧ !trailingBlank then
    if s.breaks = [] then [' '] else []
  else s.lineEnd) ++ s.breaks

def blockLines (literal : Bool) (indent : Nat) :
    Nat → BlockState → Cursor → Option (BlockState × Cursor)
  | 0, s, c => some (s, c)
  | fuel + 1, s, c =>
      if c.column ≠ indent ∨ c.rest = [] then some (s, c)
      else do
        let blank := c.atBlank
        let (line, c) := c.word fun d => !isBreak d
        let text := s.text ++ blockJoin literal blank s ++ line
        let (lineEnd, c) := c.takeBreak
        let (found, c) ← blockBreaks (some indent) (c.rest.length + 1) ⟨[], 0⟩ c
        blockLines literal indent fuel ⟨text, lineEnd, found.breaks, blank⟩ c

def chomped (chomp : Chomp) (s : BlockState) : List Char :=
  match chomp with
  | .strip => s.text
  | .clip => s.text ++ s.lineEnd
  | .keep => s.text ++ s.lineEnd ++ s.breaks

-- From behind the indicator. `parent` is the column of the enclosing block, less than zero outside.
def scanBlock (literal : Bool) (parent : Int) (c : Cursor) : Option (List Char × Cursor) := do
  let (header, c) ← blockHeader c
  let c ← c.skipLine?
  let known := header.increment.map fun n => (max parent 0).toNat + n
  let (found, c) ← blockBreaks known (c.rest.length + 1) ⟨[], 0⟩ c
  let indent := known.getD (max found.widest (max (parent + 1).toNat 1))
  let (s, c) ← blockLines literal indent (c.rest.length + 1) { breaks := found.breaks } c
  some (chomped header.chomp s, c)

end Admission.Yaml
