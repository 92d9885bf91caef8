import Admission.Filter.Basic
/-!
The filter that bounds the length of leases. A create or update is measured by its proposed
window. With an extension window, an update that moves the end out may be longer, as long as it
is asked for close enough to the current end; only the added time is then measured.
-/

namespace Admission

open Time (Instant Span)

/-- All lengths are whole seconds, at most `longestLimit`. -/
structure LengthLimit where
  maxLength : Nat
  extensionWindow : Option Nat := none
  exemptProjects : List String := []
  deriving DecidableEq

namespace LengthLimit

def filterName : String := "MaxReservationLengthFilter"

/-- A hundred years of 365 days. -/
def longestLimit : Nat := 100 * 365 * 86400

/-- A number that is a signed word. -/
def signed? (n : Nat) : Option Nat := if n < UInt64.size / 2 then some n else none

/-- Seconds are counted in a signed word. -/
def clamped (seconds : Nat) : Nat := min ((signed? seconds).getD longestLimit) longestLimit

def ofSeconds (maxLength : Nat) (extensionWindow : Option Nat) (exemptProjects : List String) :
    LengthLimit :=
  ⟨clamped maxLength, extensionWindow.map clamped, exemptProjects⟩

/-! Lengths in words. -/

def units : List (Nat × String) := [(86400, "day"), (3600, "hour"), (60, "minute"), (1, "second")]

def part (n : Nat) (unit : String) : String :=
  toString n ++ " " ++ unit ++ (if n = 1 then "" else "s")

def parts (rest : Nat) : List (Nat × String) → List String
  | [] => []
  | (size, unit) :: units =>
      if rest / size = 0 then parts rest units
      else part (rest / size) unit :: parts (rest % size) units

/-- Whole seconds in units that are not zero; a negative length reads as zero. -/
def human (s : Span) : String :=
  match parts s.wholeSeconds.toNat units with
  | [] => "0 seconds"
  | words => " ".intercalate words

/-! The decisions. -/

def malformed (start finish : Instant) : Option Decision :=
  if finish ≤ start then
    some (.error filterName ("malformed lease window: end " ++ finish.display ++
      " is not after start " ++ start.display))
  else none

def tooLong (l : LengthLimit) (length : Span) : Decision :=
  let limit := Span.ofSeconds l.maxLength
  .deny filterName ("lease length of " ++ toString length.wholeSeconds ++ " seconds (" ++
    human length ++ ") exceeds the maximum lease length of " ++ toString limit.wholeSeconds ++
    " seconds (" ++ human limit ++ ")")

def checkLength (l : LengthLimit) (start finish : Instant) : Decision :=
  match malformed start finish with
  | some bad => bad
  | none =>
      let length := finish.since start
      if Span.ofSeconds l.maxLength < length then l.tooLong length else .allow

def tooEarly (window : Nat) (current : Lease) : Decision :=
  let span := Span.ofSeconds window
  .deny filterName ("lease can only be extended within " ++ toString span.wholeSeconds ++
    " seconds (" ++ human span ++ ") of its current end date " ++ current.endDate.display)

/-- When an extension can be asked for; at any time if that is before all dates. -/
def opensAt (window : Nat) (current : Lease) : Instant :=
  (current.endDate.back window).getD Instant.earliest

def checkExtension (l : LengthLimit) (now : Instant) (window : Nat) (current lease : Lease) :
    Decision :=
  if now < opensAt window current then tooEarly window current
  else l.checkLength (current.endDate.later lease.startDate) lease.endDate

def isDeny : Decision → Bool
  | .deny _ _ => true
  | _ => false

def checkWindows (l : LengthLimit) (now : Instant) (current : Option Lease) (lease : Lease) :
    Decision :=
  let proposed := l.checkLength lease.startDate lease.endDate
  match current, l.extensionWindow with
  | some current, some window =>
      if current.endDate < lease.endDate ∧ isDeny proposed then
        l.checkExtension now window current lease
      else proposed
  | _, _ => proposed

def isExempt (l : LengthLimit) (ctx : Context) : Bool := l.exemptProjects.contains ctx.projectId

/-- A malformed window is an error even for an exempt project. -/
def decide (l : LengthLimit) (now : Instant) (ctx : Context) (current : Option Lease)
    (lease : Lease) : Decision :=
  match malformed lease.startDate lease.endDate with
  | some bad => bad
  | none => if l.isExempt ctx then .allow else l.checkWindows now current lease

/-- The exemption is logged where it is what decides. -/
def check {σ : Type} (l : LengthLimit) (ctx : Context) (current : Option Lease) (lease : Lease) :
    Task σ Ending := do
  if (malformed lease.startDate lease.endDate).isNone ∧ l.isExempt ctx then
    Task.note (.lengthExempt filterName ctx.projectId)
  let s ← Task.setting
  return .decided (l.decide s.now ctx current lease)

def filter {σ : Type} (l : LengthLimit) : Filter σ :=
  Filter.ofChecks filterName (fun ctx lease => l.check ctx none lease)
    (fun ctx current lease => l.check ctx (some current) lease)

end LengthLimit

end Admission
