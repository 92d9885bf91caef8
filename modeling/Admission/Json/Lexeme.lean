import Admission.Json.Fault
import Admission.Text.Digit
/-!
The leaves of JSON: white space, keywords, strings and numbers, each read from the front of a
text. A string is given as its characters, a number as an integer while it fits sixty-four bits
and as a double otherwise.
-/

namespace Admission.Json

open Text (digit isDigit)

def skipSpace : List Char → List Char
  | [] => []
  | c :: cs =>
      if c = ' ' ∨ c = '\n' ∨ c = '\t' ∨ c = '\r' then skipSpace cs else c :: cs

def keyword : List Char → List Char → Except Fault (List Char)
  | [], cs => .ok cs
  | _ :: _, [] => .error .endOfValue
  | k :: ks, c :: cs => if c = k then keyword ks cs else .error .expectedIdent

def hexQuad (a b c d : Char) : Option Nat := do
  let a ← Text.hexDigit a
  let b ← Text.hexDigit b
  let c ← Text.hexDigit c
  let d ← Text.hexDigit d
  return ((a * 16 + b) * 16 + c) * 16 + d

/-- Fewer than four bytes left is the end of the string, a character of several bytes no digit. -/
def shortQuad (cs : List Char) : Fault :=
  if cs.foldl (fun n c => n + c.utf8Size) 0 < 4 then .endOfString else .invalidEscape

def simpleEscape (c : Char) : Option Char :=
  if c = '"' then some '"'
  else if c = '\\' then some '\\'
  else if c = '/' then some '/'
  else if c = 'b' then some '\x08'
  else if c = 'f' then some '\x0c'
  else if c = 'n' then some '\n'
  else if c = 'r' then some '\r'
  else if c = 't' then some '\t'
  else none

def isLeading (n : Nat) : Bool := 0xD800 ≤ n && n ≤ 0xDBFF

def isTrailing (n : Nat) : Bool := 0xDC00 ≤ n && n ≤ 0xDFFF

def fromPair (lead trail : Nat) : Char :=
  Char.ofNat ((lead - 0xD800) * 0x400 + (trail - 0xDC00) + 0x10000)

/-- What a leading surrogate lacks when no complete escape follows it. -/
def missingTrail : List Char → Fault
  | [] => .endOfString
  | c :: cs =>
      if c ≠ '\\' then .endOfHexEscape
      else match cs with
        | [] => .endOfString
        | u :: digits => if u ≠ 'u' then .endOfHexEscape else shortQuad digits

/-- The rest of a string after its opening quote. -/
def stringBody : List Char → Except Fault (List Char × List Char)
  | [] => .error .endOfString
  | '"' :: cs => .ok ([], cs)
  | '\\' :: 'u' :: a :: b :: c :: d :: cs =>
      match hexQuad a b c d with
      | none => .error .invalidEscape
      | some lead =>
          if isTrailing lead then .error .loneSurrogate
          else if isLeading lead then
            match cs with
            | '\\' :: 'u' :: e :: f :: g :: h :: rest =>
                match hexQuad e f g h with
                | none => .error .invalidEscape
                | some trail =>
                    if isTrailing trail then
                      (stringBody rest).map fun r => (fromPair lead trail :: r.1, r.2)
                    else .error .loneSurrogate
            | other => .error (missingTrail other)
          else (stringBody cs).map fun r => (Char.ofNat lead :: r.1, r.2)
  | '\\' :: 'u' :: cs => .error (shortQuad cs)
  | '\\' :: [] => .error .endOfString
  | '\\' :: e :: cs =>
      match simpleEscape e with
      | none => .error .invalidEscape
      | some c => (stringBody cs).map fun r => (c :: r.1, r.2)
  | c :: cs =>
      if c.toNat < 0x20 then .error .controlCharacter
      else (stringBody cs).map fun r => (c :: r.1, r.2)

/-- A string whose value nobody asks for: escapes need their form only, not a paired surrogate. -/
def skipString : List Char → Except Fault (List Char)
  | [] => .error .endOfString
  | '"' :: cs => .ok cs
  | '\\' :: 'u' :: a :: b :: c :: d :: cs =>
      if (hexQuad a b c d).isSome then skipString cs else .error .invalidEscape
  | '\\' :: 'u' :: cs => .error (shortQuad cs)
  | '\\' :: [] => .error .endOfString
  | '\\' :: e :: cs => if (simpleEscape e).isSome then skipString cs else .error .invalidEscape
  | c :: cs => if c.toNat < 0x20 then .error .controlCharacter else skipString cs

def skipDigits (cs : List Char) : List Char := cs.dropWhile isDigit

def wordLimit : Nat := UInt64.size

/-- Digits gathered while the number fits sixty-four bits, the count of them, and the rest. -/
def gather : Nat → Nat → List Char → Nat × Nat × List Char
  | n, taken, [] => (n, taken, [])
  | n, taken, c :: cs =>
      match digit c with
      | none => (n, taken, c :: cs)
      | some d =>
          if n * 10 + d < wordLimit then gather (n * 10 + d) (taken + 1) cs
          else (n, taken, c :: cs)

def powerOfTen (e : Nat) : Float := Float.ofScientific 1 false e

/-- Scales by one correctly rounded power of ten at a time, so the last place can be off by one. -/
def scaled (x : Float) (e : Int) : Nat → Except Fault Float
  | 0 => .ok x
  | steps + 1 =>
      if e.natAbs ≤ 308 then
        if 0 ≤ e then
          let y := x * powerOfTen e.natAbs
          if y.isInf then .error .numberOutOfRange else .ok y
        else .ok (x / powerOfTen e.natAbs)
      else if x == 0 then .ok x
      else if 0 ≤ e then .error .numberOutOfRange
      else scaled (x / powerOfTen 308) (e + 308) steps

def signed (negative : Bool) (x : Float) : Float := if negative then -x else x

/-- Two steps down already give zero for any significand of sixty-four bits, a third never
starts. -/
def ofParts (negative : Bool) (n : Nat) (e : Int) : Except Fault Float :=
  (scaled (UInt64.ofNat n).toFloat e 4).map (signed negative)

def exponentLimit : Nat := 2147483648

def gatherExponent : Nat → List Char → Option Nat × List Char
  | n, [] => (some n, [])
  | n, c :: cs =>
      match digit c with
      | none => (some n, c :: cs)
      | some d =>
          if n * 10 + d < exponentLimit then gatherExponent (n * 10 + d) cs
          else (none, skipDigits cs)

def clampExponent (e : Int) : Int := max (-2147483648) (min 2147483647 e)

/-- The exponent part, from after its mark. -/
def withExponent (negative : Bool) (n : Nat) (start : Int) (cs : List Char) :
    Except Fault (Float × List Char) :=
  let (down, cs) := match cs with
    | '+' :: cs => (false, cs)
    | '-' :: cs => (true, cs)
    | cs => (false, cs)
  match cs with
  | [] => .error .endOfValue
  | c :: cs =>
      match digit c with
      | none => .error .invalidNumber
      | some d =>
          match gatherExponent d cs with
          | (none, rest) =>
              if n ≠ 0 ∧ !down then .error .numberOutOfRange
              else .ok (signed negative 0, rest)
          | (some e, rest) =>
              let e := clampExponent (if down then start - e else start + e)
              (ofParts negative n e).map fun x => (x, rest)

def isMark (c : Char) : Bool := c == 'e' || c == 'E'

/-- What follows the digits of a number that is a double already. -/
def finishFloat (negative : Bool) (n : Nat) (e : Int) : List Char →
    Except Fault (Float × List Char)
  | c :: cs =>
      if isMark c then withExponent negative n e cs
      else (ofParts negative n e).map fun x => (x, c :: cs)
  | [] => (ofParts negative n e).map fun x => (x, [])

/-- The places after the point. Those that no longer fit the significand are dropped. -/
def withPlaces (negative : Bool) (n : Nat) (start : Int) (cs : List Char) :
    Except Fault (Float × List Char) :=
  match cs with
  | [] => .error .endOfValue
  | c :: _ =>
      if !isDigit c then .error .invalidNumber
      else
        let (m, taken, rest) := gather n 0 cs
        finishFloat negative m (start - taken) (skipDigits rest)

inductive Numeral where
  | int (n : Int)
  | float (x : Float)

/-- Below the least signed word, and at minus zero, an integer is a double. -/
def wholeNumber (negative : Bool) (n : Nat) : Numeral :=
  if !negative then .int n
  else if n = 0 ∨ wordLimit / 2 < n then .float (-(UInt64.ofNat n).toFloat)
  else .int (-n)

def asFloat (r : Except Fault (Float × List Char)) : Except Fault (Numeral × List Char) :=
  r.map fun x => (.float x.1, x.2)

/-- What follows the first digits of a number: `lost` of them did not fit the significand. -/
def afterWhole (negative : Bool) (n lost : Nat) : List Char → Except Fault (Numeral × List Char)
  | c :: cs =>
      if c = '.' then asFloat (withPlaces negative n lost cs)
      else if isMark c then asFloat (withExponent negative n lost cs)
      else if lost = 0 then .ok (wholeNumber negative n, c :: cs)
      else asFloat ((ofParts negative n lost).map fun x => (x, c :: cs))
  | [] =>
      if lost = 0 then .ok (wholeNumber negative n, [])
      else asFloat ((ofParts negative n lost).map fun x => (x, []))

/-- A number after its sign. -/
def number (negative : Bool) : List Char → Except Fault (Numeral × List Char)
  | [] => .error .endOfValue
  | c :: cs =>
      match digit c with
      | none => .error .invalidNumber
      | some 0 =>
          match cs with
          | d :: _ =>
              if isDigit d then .error .invalidNumber else afterWhole negative 0 0 cs
          | [] => afterWhole negative 0 0 []
      | some d =>
          let (n, _, rest) := gather d 0 cs
          let tail := skipDigits rest
          afterWhole negative n (rest.length - tail.length) tail

def skipExponent (cs : List Char) : Except Fault (List Char) :=
  let cs := match cs with
    | '+' :: cs => cs
    | '-' :: cs => cs
    | cs => cs
  match cs with
  | c :: rest => if isDigit c then .ok (skipDigits rest) else .error .invalidNumber
  | [] => .error .invalidNumber

def skipAfterPlaces : List Char → Except Fault (List Char)
  | c :: cs => if isMark c then skipExponent cs else .ok (c :: cs)
  | [] => .ok []

def skipAfterWhole : List Char → Except Fault (List Char)
  | c :: cs =>
      if c = '.' then
        match cs with
        | d :: rest =>
            if isDigit d then skipAfterPlaces (skipDigits rest) else .error .invalidNumber
        | [] => .error .invalidNumber
      else if isMark c then skipExponent cs
      else .ok (c :: cs)
  | [] => .ok []

/-- A number after its sign whose value nobody asks for. -/
def skipNumber : List Char → Except Fault (List Char)
  | [] => .error .invalidNumber
  | c :: cs =>
      match digit c with
      | none => .error .invalidNumber
      | some 0 =>
          match cs with
          | d :: _ => if isDigit d then .error .invalidNumber else skipAfterWhole cs
          | [] => .ok []
      | some _ => skipAfterWhole (skipDigits cs)

end Admission.Json
