import Admission.Text.Blank
import Admission.Text.Digit
import Admission.Time.Instant
/-!
Reading an instant from a relaxed RFC 3339 text: fields of one digit, white space in front of
fields and separators, a blank or either case of T between date and time, UTC spelled out, an
offset with or without its colon, years of any length with a sign.
-/

namespace Admission.Time

inductive Fault where
  | tooShort
  | invalid
  | outOfRange
  | tooLong
  | impossible
  deriving DecidableEq, Repr

def Fault.message : Fault → String
  | .tooShort => "premature end of input"
  | .invalid => "input contains invalid characters"
  | .outOfRange => "input is out of range"
  | .tooLong => "trailing input"
  | .impossible => "no possible date and time matching input"

namespace Reader

open Text (trimStart isBlank digit isDigit)

/-- More digits of a number that must fit a signed word. -/
def moreDigits (n : Nat) : Nat → List Char → Except Fault (Nat × List Char)
  | 0, cs => .ok (n, cs)
  | _ + 1, [] => .ok (n, [])
  | width + 1, c :: cs =>
      match digit c with
      | none => .ok (n, c :: cs)
      | some d =>
          let n := n * 10 + d
          if n < UInt64.size / 2 then moreDigits n width cs else .error .outOfRange

/-- At least one digit and at most `width`. -/
def number (width : Nat) (cs : List Char) : Except Fault (Nat × List Char) :=
  match cs with
  | [] => .error .tooShort
  | c :: rest =>
      match digit c with
      | none => .error .invalid
      | some d => moreDigits d (width - 1) rest

/-- A number of up to two digits between two bounds, after white space. -/
def field (low high : Nat) (cs : List Char) : Except Fault (Nat × List Char) := do
  let (n, rest) ← number 2 (trimStart cs)
  if low ≤ n ∧ n ≤ high then .ok (n, rest) else .error .outOfRange

/-- A sign lifts the limit of four digits. -/
def year (cs : List Char) : Except Fault (Int × List Char) := do
  let cs := trimStart cs
  let (n, rest) ← match cs with
    | '-' :: rest => (number rest.length rest).map fun r => (-(r.1 : Int), r.2)
    | '+' :: rest => (number rest.length rest).map fun r => ((r.1 : Int), r.2)
    | _ => (number 4 cs).map fun r => ((r.1 : Int), r.2)
  if -2147483648 ≤ n ∧ n < 2147483648 then .ok (n, rest) else .error .outOfRange

def separator (c : Char) (cs : List Char) : Except Fault (List Char) :=
  match trimStart cs with
  | [] => .error .tooShort
  | d :: rest => if d = c then .ok rest else .error .invalid

def dateEnd : List Char → Except Fault (List Char)
  | [] => .error .tooShort
  | c :: rest => if c = 'T' ∨ c = 't' ∨ c = ' ' then .ok rest else .error .invalid

/-- Nine places count; further ones are dropped. -/
def fraction (cs : List Char) : Except Fault (Nat × List Char) :=
  match cs with
  | '.' :: places => do
      let (n, rest) ← number 9 places
      let taken := places.length - rest.length
      .ok (n * Nat.pow 10 (9 - taken), rest.dropWhile isDigit)
  | _ => .ok (0, cs)

def isUtc (a b c : Char) : Bool :=
  (a == 'U' || a == 'u') && (b == 'T' || b == 't') && (c == 'C' || c == 'c')

/-- Two digits, where fewer than two bytes are too short and anything else is invalid. -/
def twoDigits (cs : List Char) : Except Fault (Nat × Nat × List Char) :=
  match cs with
  | [] => .error .tooShort
  | [c] => if c.utf8Size < 2 then .error .tooShort else .error .invalid
  | c :: d :: rest =>
      match digit c, digit d with
      | some m, some n => .ok (m, n, rest)
      | _, _ => .error .invalid

/-- Seconds east of universal time. -/
def offset (cs : List Char) : Except Fault (Int × List Char) :=
  let after (sign : Int) (cs : List Char) : Except Fault (Int × List Char) := do
    let (a, b, rest) ← twoDigits cs
    let (c, d, rest) ← twoDigits (rest.dropWhile fun c => c == ':' || isBlank c)
    if 6 ≤ c then .error .outOfRange
    else .ok (sign * ((a * 10 + b) * 3600 + (c * 10 + d) * 60), rest)
  match cs with
  | [] => .error .tooShort
  | c :: rest =>
      if c = 'Z' ∨ c = 'z' then .ok (0, rest)
      else if c = '+' then after 1 rest
      else if c = '-' ∨ c.toNat = 0x2212 then after (-1) rest
      else .error .invalid

def zone (cs : List Char) : Except Fault (Int × List Char) :=
  match cs with
  | a :: b :: c :: rest => if isUtc a b c then .ok (0, rest) else offset cs
  | _ => offset cs

structure Fields where
  date : Date
  hour : Nat
  minute : Nat
  second : Nat
  nano : Nat
  offset : Int
  deriving Repr

def fields (cs : List Char) : Except Fault Fields := do
  let (year, cs) ← year cs
  let (month, cs) ← field 1 12 (← separator '-' cs)
  let (day, cs) ← field 1 31 (← separator '-' cs)
  let (hour, cs) ← field 0 23 (← dateEnd cs)
  let (minute, cs) ← field 0 59 (← separator ':' cs)
  let (second, cs) ← field 0 60 (← separator ':' cs)
  let (nano, cs) ← fraction cs
  let (offset, cs) ← zone (trimStart cs)
  match trimStart cs with
  | [] => .ok ⟨⟨year, month, day⟩, hour, minute, second, nano, offset⟩
  | _ :: _ => .error .tooLong

/-- The sixtieth second is the leap second of the one before. -/
def Fields.instant (f : Fields) : Except Fault Instant :=
  if ¬ f.date.Valid then .error .outOfRange
  else if 86400 ≤ f.offset.natAbs then .error .outOfRange
  else
    let leap := f.second = 60
    let second : Int :=
      f.hour * 3600 + f.minute * 60 + (if leap then 59 else f.second) - f.offset
    let day := f.date.dayNumber + second / 86400
    if Instant.firstDay ≤ day ∧ day ≤ Instant.lastDay then
      .ok ⟨day, (second % 86400).toNat, f.nano + (if leap then Instant.billion else 0)⟩
    else .error .impossible

end Reader

def Instant.parse (s : String) : Except Fault Instant := do
  (← Reader.fields s.toList).instant

end Admission.Time
