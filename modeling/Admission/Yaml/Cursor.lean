/-!
A place in a YAML text: what is left, and how many characters, lines and columns came before it.
-/

namespace Admission.Yaml

-- Characters a YAML text may have.
def admitted (c : Char) : Bool :=
  let n := c.toNat
  n == 0x09 || n == 0x0A || n == 0x0D || (0x20 ≤ n && n ≤ 0x7E) || n == 0x85 ||
    (0xA0 ≤ n && n ≤ 0xD7FF) || (0xE000 ≤ n && n ≤ 0xFFFD) || 0x10000 ≤ n

def isBlank (c : Char) : Bool := c == ' ' || c == '\t'

def isBreak (c : Char) : Bool :=
  c == '\n' || c == '\r' || c.toNat == 0x85 || c.toNat == 0x2028 || c.toNat == 0x2029

def isGap (c : Char) : Bool := isBlank c || isBreak c

-- Characters of words: names of anchors, directives and tag handles.
def isWordChar (c : Char) : Bool :=
  let n := c.toNat
  (0x30 ≤ n && n ≤ 0x39) || (0x41 ≤ n && n ≤ 0x5A) || (0x61 ≤ n && n ≤ 0x7A) || c == '_' || c == '-'

def isFlowMark (c : Char) : Bool :=
  c == ',' || c == '[' || c == ']' || c == '\x7b' || c == '\x7d'

-- A blank, a line break or the end of the text comes next.
def atGap : List Char → Bool
  | [] => true
  | c :: _ => isGap c

structure Cursor where
  rest : List Char
  index : Nat := 0
  line : Nat := 0
  column : Nat := 0
  deriving DecidableEq, Repr

namespace Cursor

def skip (n : Nat) (c : Cursor) : Cursor :=
  { c with rest := c.rest.drop n, index := c.index + n, column := c.column + n }

def skipWhile (p : Char → Bool) (c : Cursor) : Cursor := c.skip (c.rest.takeWhile p).length

def word (p : Char → Bool) (c : Cursor) : List Char × Cursor :=
  (c.rest.takeWhile p, c.skipWhile p)

def newLine (n : Nat) (c : Cursor) : Cursor :=
  { rest := c.rest.drop n, index := c.index + n, line := c.line + 1, column := 0 }

-- Past a line break, which counts as one line end; two kinds of it stay what they are.
def takeBreak (c : Cursor) : List Char × Cursor :=
  match c.rest with
  | [] => ([], c)
  | d :: rest =>
      if d = '\r' then
        match rest with
        | '\n' :: _ => (['\n'], c.newLine 2)
        | _ => (['\n'], c.newLine 1)
      else if d.toNat = 0x2028 ∨ d.toNat = 0x2029 then ([d], c.newLine 1)
      else if isBreak d then (['\n'], c.newLine 1)
      else ([], c)

def atBreakOrEnd (c : Cursor) : Bool := (c.rest.head?.map isBreak).getD true

def atBlank (c : Cursor) : Bool := (c.rest.head?.map isBlank).getD false

-- Blanks and a comment up to the end of the line, and the line break.
def skipLine? (c : Cursor) : Option Cursor :=
  let c := c.skipWhile isBlank
  let c := if c.rest.head? = some '#' then c.skipWhile fun d => !isBreak d else c
  if c.atBreakOrEnd then some c.takeBreak.2 else none

-- Three dashes or dots at the beginning of a line.
def atDocumentMark (mark : Char) (c : Cursor) : Bool :=
  c.column == 0 &&
    match c.rest with
    | x :: y :: z :: rest => x == mark && y == mark && z == mark && atGap rest
    | _ => false

def atDocumentEdge (c : Cursor) : Bool := c.atDocumentMark '-' || c.atDocumentMark '.'

end Cursor

end Admission.Yaml
