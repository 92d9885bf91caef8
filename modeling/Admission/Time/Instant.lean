import Admission.Time.Calendar
import Admission.Time.Span
/-!
Instants in universal time, to the nanosecond. A leap second continues the second before it:
its nanoseconds count on from a thousand million.
-/

namespace Admission.Time

structure Instant where
  day : Int
  second : Nat
  nano : Nat
  deriving DecidableEq, Repr

namespace Instant

def billion : Nat := 1000000000

def firstDay : Int := Date.dayNumber ⟨Date.firstYear, 1, 1⟩

def lastDay : Int := Date.dayNumber ⟨Date.lastYear, 12, 31⟩

/-- What an instant can be at all: a day in range, a second of it, and nanoseconds up to the end of
a leap second. -/
def InRange (t : Instant) : Prop :=
  firstDay ≤ t.day ∧ t.day ≤ lastDay ∧ t.second < 86400 ∧ t.nano < 2 * billion

instance (t : Instant) : Decidable t.InRange := by
  unfold InRange; infer_instance

/-- What readers give: a day in range, and a leap second only at the end of a minute. -/
def Proper (t : Instant) : Prop :=
  firstDay ≤ t.day ∧ t.day ≤ lastDay ∧ t.second < 86400 ∧ t.nano < 2 * billion ∧
    (billion ≤ t.nano → t.second % 60 = 59)

instance (t : Instant) : Decidable t.Proper := by
  unfold Proper; infer_instance

theorem Proper.inRange {t : Instant} : t.Proper → t.InRange
  | ⟨first, last, second, nano, _⟩ => ⟨first, last, second, nano⟩

def earliest : Instant := ⟨firstDay, 0, 0⟩

def Before (a b : Instant) : Prop :=
  a.day < b.day ∨ a.day = b.day ∧
    (a.second < b.second ∨ a.second = b.second ∧ a.nano < b.nano)

instance : LT Instant := ⟨Before⟩

instance : LE Instant := ⟨fun a b => ¬ b < a⟩

instance (a b : Instant) : Decidable (a < b) := by
  unfold LT.lt instLT Before; infer_instance

instance (a b : Instant) : Decidable (a ≤ b) := inferInstanceAs (Decidable (¬ b < a))

def later (a b : Instant) : Instant := if a ≤ b then b else a

/-- A leap second is counted only when one of the two instants is inside it. -/
def leapSeconds (a b : Instant) : Int :=
  if b.second < a.second ∧ billion ≤ b.nano then 1
  else if a.second < b.second ∧ billion ≤ a.nano then -1
  else 0

/-- The time from `b` to `a`. -/
def since (a b : Instant) : Span :=
  let seconds := (a.day - b.day) * 86400 + ((a.second : Int) - b.second) + leapSeconds a b
  ⟨seconds * Span.nanosPerSecond + ((a.nano : Int) - b.nano)⟩

/-- Goes back whole seconds, leaving a leap second first; `none` before the first day. -/
def back (t : Instant) (seconds : Nat) : Option Instant :=
  if seconds = 0 then some t
  else
    let inLeap := billion ≤ t.nano
    let nano := if inLeap then t.nano - billion else t.nano
    let second : Int := (t.second : Int) + (if inLeap then 1 else 0) - seconds
    let day := t.day + second / 86400
    if firstDay ≤ day then some ⟨day, (second % 86400).toNat, nano⟩ else none

def padded (width n : Nat) : List Char :=
  let ds := Nat.toDigits 10 n
  List.replicate (width - ds.length) '0' ++ ds

/-- Four digits, and a sign in front of years that have more or are negative. -/
def yearText (year : Int) : List Char :=
  if 0 ≤ year ∧ year ≤ 9999 then padded 4 year.toNat
  else if year < 0 then '-' :: padded 4 year.natAbs
  else '+' :: padded 4 year.natAbs

def dateText (t : Instant) : List Char :=
  let d := Date.ofDayNumber t.day
  yearText d.year ++ '-' :: (padded 2 d.month ++ '-' :: padded 2 d.day)

/-- Nothing, milliseconds, microseconds or nanoseconds, whichever is exact. -/
def fractionText (nano : Nat) : List Char :=
  if nano = 0 then []
  else if nano % 1000000 = 0 then '.' :: padded 3 (nano / 1000000)
  else if nano % 1000 = 0 then '.' :: padded 6 (nano / 1000)
  else '.' :: padded 9 nano

def clockText (t : Instant) : List Char :=
  let inLeap := billion ≤ t.nano
  let second := t.second % 60 + (if inLeap then 1 else 0)
  let nano := if inLeap then t.nano - billion else t.nano
  padded 2 (t.second / 3600) ++ ':' :: (padded 2 (t.second / 60 % 60) ++ ':' ::
    (padded 2 second ++ fractionText nano))

def display (t : Instant) : String :=
  String.ofList (t.dateText ++ ' ' :: (t.clockText ++ [' ', 'U', 'T', 'C']))

def wireChars (t : Instant) : List Char := t.dateText ++ 'T' :: (t.clockText ++ ['Z'])

def wire (t : Instant) : String := String.ofList t.wireChars

end Instant

end Admission.Time
