/-!
Digits and the numbers written with them, most significant digit first.
-/

namespace Admission.Text

def digit (c : Char) : Option Nat :=
  let n := c.toNat
  if 0x30 ≤ n ∧ n ≤ 0x39 then some (n - 0x30) else none

def isDigit (c : Char) : Bool := (digit c).isSome

def hexDigit (c : Char) : Option Nat :=
  let n := c.toNat
  if 0x30 ≤ n ∧ n ≤ 0x39 then some (n - 0x30)
  else if 0x41 ≤ n ∧ n ≤ 0x46 then some (n - 0x37)
  else if 0x61 ≤ n ∧ n ≤ 0x66 then some (n - 0x57)
  else none

-- A number of a base up to sixteen whose first digits made `n`.
def numberFrom (base : Nat) : Nat → List Char → Option Nat
  | n, [] => some n
  | n, c :: rest =>
      match hexDigit c with
      | some d => if d < base then numberFrom base (n * base + d) rest else none
      | none => none

-- At least one digit.
def number? (base : Nat) (cs : List Char) : Option Nat :=
  if cs = [] then none else numberFrom base 0 cs

end Admission.Text
