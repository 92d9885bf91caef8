import Admission.Text.Utf8
import Admission.Yaml.Scalar
/-!
Tags as they are written, and the directives that say what their handles stand for.
-/

namespace Admission.Yaml

-- A handle and what follows it; an empty handle stands for nothing before the rest.
structure WrittenTag where
  handle : List Char
  suffix : List Char
  deriving DecidableEq, Repr

def isUriChar (verbatim : Bool) (c : Char) : Bool :=
  isWordChar c || c == ';' || c == '/' || c == '?' || c == ':' || c == '@' || c == '&' ||
    c == '=' || c == '+' || c == '$' || c == '.' || c == '!' || c == '~' || c == '*' ||
    c == singleMark || c == '(' || c == ')' || c == '%' ||
    (verbatim && (c == ',' || c == '[' || c == ']'))

-- Percent escapes stand for the bytes of a character.
def unescaped : List Char → Option (List UInt8)
  | '%' :: a :: b :: rest => do
      let m ← Text.hexDigit a
      let n ← Text.hexDigit b
      return UInt8.ofNat (m * 16 + n) :: (← unescaped rest)
  | '%' :: _ => none
  | c :: rest => do return String.utf8EncodeChar c ++ (← unescaped rest)
  | [] => some []

def tagUri (verbatim : Bool) (c : Cursor) : Option (List Char × Cursor) := do
  let (raw, after) := c.word (isUriChar verbatim)
  some (← Text.Utf8.decode? (← unescaped raw), after)

-- An exclamation mark, a word, and another mark if there is one.
def tagHandle (c : Cursor) : List Char × Cursor :=
  let (name, after) := (c.skip 1).word isWordChar
  match after.rest with
  | '!' :: _ => ('!' :: (name ++ ['!']), after.skip 1)
  | _ => ('!' :: name, after)

def isFullHandle (handle : List Char) : Bool := 2 ≤ handle.length && handle.getLast? == some '!'

-- The tag at an exclamation mark, up to a gap or, among flow entries, a comma.
def scanTag (flow : Bool) (c : Cursor) : Option (WrittenTag × Cursor) := do
  let (tag, after) ←
    match c.rest with
    | '!' :: '<' :: _ => do
        let (uri, after) ← tagUri true (c.skip 2)
        if uri = [] ∨ after.rest.head? ≠ some '>' then none
        else some (⟨[], uri⟩, after.skip 1)
    | _ => do
        let (handle, after) := tagHandle c
        let (uri, after) ← tagUri false after
        if isFullHandle handle then
          if uri = [] then none else some (⟨handle, uri⟩, after)
        else
          let suffix := handle.drop 1 ++ uri
          if suffix = [] then some (⟨[], ['!']⟩, after) else some (⟨['!'], suffix⟩, after)
  if atGap after.rest ∨ (flow ∧ after.rest.head? = some ',') then some (tag, after) else none

inductive Directive where
  | version (major minor : Nat)
  | tag (handle start : List Char)
  deriving DecidableEq, Repr

-- Up to nine digits.
def versionNumber (c : Cursor) : Option (Nat × Cursor) :=
  let (digits, after) := c.word Text.isDigit
  if 9 < digits.length then none else (Text.number? 10 digits).map (·, after)

def versionDirective (c : Cursor) : Option (Directive × Cursor) := do
  let (major, c) ← versionNumber (c.skipWhile isBlank)
  if c.rest.head? ≠ some '.' then none
  let (minor, c) ← versionNumber (c.skip 1)
  some (.version major minor, c)

def tagDirective (c : Cursor) : Option (Directive × Cursor) := do
  let c := c.skipWhile isBlank
  if c.rest.head? ≠ some '!' then none
  let (handle, c) := tagHandle c
  if handle ≠ ['!'] ∧ !isFullHandle handle then none
  if !c.atBlank then none
  let (start, c) ← tagUri true (c.skipWhile isBlank)
  if start = [] ∨ !atGap c.rest then none
  some (.tag handle start, c)

-- A directive at its percent sign, with the rest of its line.
def scanDirective (c : Cursor) : Option (Directive × Cursor) := do
  let (name, c) := (c.skip 1).word isWordChar
  if name = [] ∨ !atGap c.rest then none
  let (directive, c) ←
    if name = "YAML".toList then versionDirective c
    else if name = "TAG".toList then tagDirective c
    else none
  some (directive, ← c.skipLine?)

-- Handles that need no directive.
def defaultHandles : List (List Char × List Char) :=
  [(['!'], ['!']), (['!', '!'], "tag:yaml.org,2002:".toList)]

def resolveTag (handles : List (List Char × List Char)) (t : WrittenTag) : Option (List Char) :=
  if t.handle = [] then some t.suffix
  else (handles.lookup t.handle).map (· ++ t.suffix)

end Admission.Yaml
