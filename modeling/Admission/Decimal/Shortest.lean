/-!
The shortest decimal text of a binary fraction. A finite double is `significand * 2 ^ exponent`;
the reals that round to it form an interval, and `shortest` is the first decimal grid, from one
digit upwards, that has a point in it. Of two such points it takes the nearer one, and the even
one when both are equally near.
-/

namespace Admission.Decimal

structure Binary where
  significand : Nat
  exponent : Int
  deriving DecidableEq, Repr

-- `digits * 10 ^ exponent`, written without trailing zeros.
structure Digits where
  digits : Nat
  exponent : Int
  deriving DecidableEq, Repr

namespace Binary

-- The factors that turn a comparison of `d * 10 ^ e` with `x * 2 ^ (q - 2)` into one of naturals.
def tenScale (q e : Int) : Nat := Nat.pow 10 e.toNat * Nat.pow 2 (2 - q).toNat

def twoScale (q e : Int) : Nat := Nat.pow 2 (q - 2).toNat * Nat.pow 10 (-e).toNat

-- The boundaries in quarters of the last place. Below a power of two the gap is half as wide.
def lower (b : Binary) : Nat :=
  if b.significand = Nat.pow 2 52 ∧ -1074 < b.exponent then 4 * b.significand - 1
  else 4 * b.significand - 2

def upper (b : Binary) : Nat := 4 * b.significand + 2

-- The ends belong to the interval when the significand is even, since ties round to even.
def holds (b : Binary) (d : Nat) (e : Int) : Bool :=
  let point := d * tenScale b.exponent e
  let low := b.lower * twoScale b.exponent e
  let high := b.upper * twoScale b.exponent e
  if b.significand % 2 = 0 then low ≤ point && point ≤ high else low < point && point < high

-- The exponent of the leading decimal digit.
def magnitude (b : Binary) : Int :=
  let guess := Int.fdiv ((Nat.log2 b.significand + b.exponent) * 30103) 100000
  let next := guess + 1
  if tenScale b.exponent next ≤ 4 * b.significand * twoScale b.exponent next then next else guess

-- The point of the grid `10 ^ e` that is in the interval and nearest to the value.
def onGrid (b : Binary) (e : Int) : Option Nat :=
  let value := 4 * b.significand * twoScale b.exponent e
  let unit := tenScale b.exponent e
  let below := value / unit
  let above := below + 1
  match b.holds below e, b.holds above e with
  | true, true =>
      let down := value - below * unit
      let up := above * unit - value
      if down < up then some below
      else if up < down then some above
      else some (if below % 2 = 0 then below else above)
  | true, false => some below
  | false, true => some above
  | false, false => none

def search (b : Binary) (e : Int) : Nat → Digits
  | 0 => ⟨(4 * b.significand * twoScale b.exponent e) / tenScale b.exponent e, e⟩
  | steps + 1 =>
      match b.onGrid e with
      | some d => ⟨d, e⟩
      | none => search b (e - 1) steps

end Binary

def Digits.strip : Nat → Digits → Digits
  | 0, d => d
  | steps + 1, d =>
      if d.digits ≠ 0 ∧ d.digits % 10 = 0 then strip steps ⟨d.digits / 10, d.exponent + 1⟩ else d

-- Seventeen digits tell any two doubles apart.
def Binary.shortest (b : Binary) : Digits :=
  if b.significand = 0 then ⟨0, 0⟩
  else Digits.strip 20 (b.search b.magnitude 17)

end Admission.Decimal
