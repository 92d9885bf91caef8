import Admission.Text.Digit
import Admission.Url.Domain.Mapping
/-!
Labels written in ASCII. Characters beyond ASCII are taken out of the label and noted behind its
last hyphen in ascending order: for each one the number of places that are passed over on the way
from the one before it, going through all places for each character in between.
-/

namespace Admission.Url.Domain.Punycode

def digitChar (n : Nat) : Char := Char.ofNat (if n < 26 then 0x61 + n else 0x30 + n - 26)

def digitValue? (c : Char) : Option Nat :=
  if 0x61 ≤ c.toNat ∧ c.toNat ≤ 0x7A then some (c.toNat - 0x61)
  else (Text.digit c).map (· + 26)

-- A digit below its threshold is the last one of a number.
def threshold (bias place : Nat) : Nat := max 1 (min 26 (place - bias))

theorem threshold_pos (bias place : Nat) : 0 < threshold bias place := by
  unfold threshold; omega

-- The bias follows the size of the last number, so that the next one like it is short.
def scale (k delta : Nat) : Nat :=
  if 455 < delta then scale (k + 36) (delta / 35) else k + 36 * delta / (delta + 38)
termination_by delta

-- `points` is the number of characters in the label, with the new one.
def adapt (delta points : Nat) (first : Bool) : Nat :=
  let delta := if first then delta / 700 else delta / 2
  scale 0 (delta + delta / points)

/-! Writing. -/

def number (bias place n : Nat) : List Char :=
  let t := threshold bias place
  if n < t then [digitChar n]
  else digitChar (t + (n - t) % (36 - t)) :: number bias (place + 36) ((n - t) / (36 - t))
termination_by n
decreasing_by
  have := threshold_pos bias place
  have := Nat.div_le_self (n - threshold bias place) (36 - threshold bias place)
  omega

structure Writer where
  delta : Nat
  bias : Nat
  points : Nat
  written : List Char

-- Passes one character of the label while `point` is to be noted.
def pass (basics point : Nat) (w : Writer) (c : Char) : Writer :=
  if c.toNat < point then { w with delta := w.delta + 1 }
  else if c.toNat = point then
    { delta := 0
      bias := adapt w.delta (w.points + 1) (w.points == basics)
      points := w.points + 1
      written := w.written ++ number w.bias 36 w.delta }
  else w

-- Notes the characters in ascending order; `reached` is the least that can still come.
def note (label : List Char) (basics : Nat) : Nat → Writer → List Nat → List Char
  | _, w, [] => w.written
  | reached, w, point :: rest =>
      let w := { w with delta := w.delta + (point - reached) * (w.points + 1) }
      let w := label.foldl (pass basics point) w
      note label basics (point + 1) { w with delta := w.delta + 1 } rest

def insertPoint (n : Nat) : List Nat → List Nat
  | [] => [n]
  | m :: rest =>
      if n < m then n :: m :: rest
      else if n = m then m :: rest
      else m :: insertPoint n rest

def encode (label : List Char) : List Char :=
  let basic := label.filter isAscii
  let others := (label.filter fun c => !isAscii c).map Char.toNat
  let front := if basic = [] then [] else basic ++ ['-']
  front ++ note label basic.length 0x80 ⟨0, 72, basic.length, []⟩ (others.foldr insertPoint [])

/-! Reading. -/

-- A number and what follows it, to be added to `sum`.
def readNumber (bias : Nat) : Nat → Nat → Nat → List Char → Option (Nat × List Char)
  | _, _, _, [] => none
  | place, weight, sum, c :: rest => do
      let digit ← digitValue? c
      let t := threshold bias place
      let sum := sum + digit * weight
      if digit < t then some (sum, rest)
      else readNumber bias (place + 36) (weight * (36 - t)) sum rest

-- Each number takes at least one digit.
def readPoints : Nat → Nat → Nat → Nat → List Char → List Char → Option (List Char)
  | _, _, _, _, label, [] => some label
  | 0, _, _, _, _, _ => none
  | fuel + 1, reached, passed, bias, label, code => do
      let (sum, rest) ← readNumber bias 36 1 passed code
      let points := label.length + 1
      let point := reached + sum / points
      let place := sum % points
      if !point.isValidChar then none
      readPoints fuel point (place + 1) (adapt (sum - passed) points (passed == 0))
        (label.take place ++ Char.ofNat point :: label.drop place) rest

-- The last hyphen ends what was ASCII in the label.
def decode? (code : List Char) : Option (List Char) :=
  let back := (code.reverse.takeWhile (· ≠ '-')).reverse
  let front := code.take (code.length - back.length - 1)
  readPoints back.length 0x80 0 72 front back

end Admission.Url.Domain.Punycode
