import Admission.Decimal.Layout
import Admission.Table
/-!
JSON values and their text. The entries of an object stand in a list and are written in its
order; an object that was read has each key once, in the order of code points.
-/

namespace Admission

inductive Json where
  | null
  | bool (b : Bool)
  | int (n : Int)
  | float (x : Float)
  | text (s : String)
  | list (items : List Json)
  | object (entries : List (String × Json))
  deriving BEq, Inhabited

namespace Json

/-- Fewest digits that read back; positional from 10^-5 up to 10^15, with ".0" on whole numbers. -/
def floatLayout : Decimal.Layout := ⟨-5, 15, true, 'e', true⟩

def intChars (n : Int) : List Char :=
  if n < 0 then '-' :: Nat.toDigits 10 n.natAbs else Nat.toDigits 10 n.natAbs

def hexDigit (n : Nat) : Char := (Nat.toDigits 16 n).headD '0'

def escapeChar (c : Char) : List Char :=
  if c = '"' then ['\\', '"']
  else if c = '\\' then ['\\', '\\']
  else if c.toNat = 0x08 then ['\\', 'b']
  else if c.toNat = 0x09 then ['\\', 't']
  else if c.toNat = 0x0A then ['\\', 'n']
  else if c.toNat = 0x0C then ['\\', 'f']
  else if c.toNat = 0x0D then ['\\', 'r']
  else if c.toNat < 0x20 then
    ['\\', 'u', '0', '0', hexDigit (c.toNat / 16), hexDigit (c.toNat % 16)]
  else [c]

def textChars (s : String) : List Char := '"' :: (s.toList.flatMap escapeChar ++ ['"'])

mutual

/-- Without white space. -/
def chars : Json → List Char
  | .null => ['n', 'u', 'l', 'l']
  | .bool true => ['t', 'r', 'u', 'e']
  | .bool false => ['f', 'a', 'l', 's', 'e']
  | .int n => intChars n
  | .float x => floatLayout.float x
  | .text s => textChars s
  | .list [] => ['[', ']']
  | .list (x :: xs) => '[' :: (chars x ++ moreItems xs)
  | .object [] => ['\x7b', '\x7d']
  | .object ((k, v) :: rest) => '\x7b' :: (textChars k ++ ':' :: (chars v ++ moreEntries rest))

def moreItems : List Json → List Char
  | [] => [']']
  | x :: xs => ',' :: (chars x ++ moreItems xs)

def moreEntries : List (String × Json) → List Char
  | [] => ['\x7d']
  | (k, v) :: rest => ',' :: (textChars k ++ ':' :: (chars v ++ moreEntries rest))

end

def write (v : Json) : String := String.ofList v.chars

def newline (depth : Nat) : List Char := '\n' :: List.replicate (2 * depth) ' '

mutual

/-- One entry a line, two spaces a level. -/
def prettyChars (depth : Nat) : Json → List Char
  | .list [] => ['[', ']']
  | .list (x :: xs) =>
      '[' :: (newline (depth + 1) ++ prettyChars (depth + 1) x ++ prettyItems depth xs)
  | .object [] => ['\x7b', '\x7d']
  | .object ((k, v) :: rest) =>
      '\x7b' :: (newline (depth + 1) ++ textChars k ++ ':' :: ' ' ::
        (prettyChars (depth + 1) v ++ prettyEntries depth rest))
  | .null => chars .null
  | .bool b => chars (.bool b)
  | .int n => chars (.int n)
  | .float x => chars (.float x)
  | .text s => chars (.text s)

def prettyItems (depth : Nat) : List Json → List Char
  | [] => newline depth ++ [']']
  | x :: xs =>
      ',' :: (newline (depth + 1) ++ prettyChars (depth + 1) x ++ prettyItems depth xs)

def prettyEntries (depth : Nat) : List (String × Json) → List Char
  | [] => newline depth ++ ['\x7d']
  | (k, v) :: rest =>
      ',' :: (newline (depth + 1) ++ textChars k ++ ':' :: ' ' ::
        (prettyChars (depth + 1) v ++ prettyEntries depth rest))

end

def pretty (v : Json) : String := String.ofList (v.prettyChars 0)

/-- A text or null. -/
def ofOption : Option String → Json
  | none => .null
  | some s => .text s

end Json

end Admission
