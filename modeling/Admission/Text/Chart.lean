import Admission.Text.Digit
import Admission.Text.Split
/-!
Properties of characters, written down as words of hexadecimal code points: sets as ranges, and
charts, which give the characters that a character stands for.
-/

namespace Admission.Text

structure Ranges where
  bounds : List (Nat × Nat)
  deriving Repr

namespace Ranges

-- `5BF` or `300-36F`.
def bound? (word : List Char) : Option (Nat × Nat) :=
  match splitOn '-' word with
  | [one] => (number? 16 one).map fun n => (n, n)
  | [first, last] => do some (← number? 16 first, ← number? 16 last)
  | _ => none

def ofText (s : String) : Ranges := ⟨(words s.toList).filterMap bound?⟩

def contains (r : Ranges) (c : Char) : Bool :=
  r.bounds.any fun b => b.1 ≤ c.toNat && c.toNat ≤ b.2

end Ranges

-- Every `step`-th of `count` characters stands for the target, which moves along with it.
structure Chart.Entry where
  first : Nat
  count : Nat
  step : Nat
  target : List Nat
  deriving Repr

structure Chart where
  entries : List Chart.Entry
  deriving Repr

namespace Chart

-- `61+300`, or `-` for nothing.
def target? (word : List Char) : Option (List Nat) :=
  if word = ['-'] then some [] else (splitOn '+' word).mapM (number? 16)

-- `61*1A` is twenty-six characters in a row, `101/18` twenty-four of which each second is left out.
def entry? (place : Nat) (word : List Char) : Option Entry :=
  match splitOn '*' word, splitOn '/' word with
  | [target, count], _ => do some ⟨place, ← number? 16 count, 1, ← target? target⟩
  | _, [target, count] => do some ⟨place, ← number? 16 count, 2, ← target? target⟩
  | _, _ => do some ⟨place, 1, 1, ← target? word⟩

-- Entries follow each other: `41:` goes to a character, `.` leaves one out.
def entriesFrom : Nat → List (List Char) → List Entry
  | _, [] => []
  | place, word :: rest =>
      if word = ['.'] then entriesFrom (place + 1) rest
      else if word.getLast? = some ':' then
        entriesFrom ((number? 16 word.dropLast).getD place) rest
      else match entry? place word with
        | some e => e :: entriesFrom (place + e.count * e.step) rest
        | none => entriesFrom place rest

def ofText (s : String) : Chart := ⟨entriesFrom 0 (words s.toList)⟩

def Entry.find? (e : Entry) (n : Nat) : Option (List Nat) :=
  let distance := n - e.first
  if e.first ≤ n ∧ distance % e.step = 0 ∧ distance / e.step < e.count then
    some (e.target.map (· + distance))
  else none

def find? (t : Chart) (c : Char) : Option (List Char) :=
  (t.entries.findSome? (·.find? c.toNat)).map (·.map Char.ofNat)

-- The first character that stands for a text.
def source? (t : Chart) (cs : List Char) : Option Char :=
  (t.entries.find? (·.target = cs.map Char.toNat)).map fun e => Char.ofNat e.first

end Chart

end Admission.Text
