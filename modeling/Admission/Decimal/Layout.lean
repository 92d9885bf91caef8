import Admission.Decimal.Shortest
/-!
How a double is written: as positional digits while its leading digit is near the point, in
scientific form otherwise.
-/

namespace Admission.Decimal

structure Layout where
  -- the exponents of the leading digit that are written positionally
  smallest : Int
  largest : Int
  -- a positional integer ends in ".0"
  wholePoint : Bool
  mark : Char
  -- a positive exponent has a sign
  plus : Bool
  deriving DecidableEq, Repr

namespace Layout

def digitsText (n : Nat) : List Char := Nat.toDigits 10 n

def zeros (n : Nat) : List Char := List.replicate n '0'

def positional (layout : Layout) (d : Digits) : List Char :=
  let ds := digitsText d.digits
  if 0 ≤ d.exponent then
    ds ++ zeros d.exponent.toNat ++ (if layout.wholePoint then ['.', '0'] else [])
  else
    let places := (-d.exponent).toNat
    if places < ds.length then ds.take (ds.length - places) ++ '.' :: ds.drop (ds.length - places)
    else '0' :: '.' :: (zeros (places - ds.length) ++ ds)

def exponentText (layout : Layout) (e : Int) : List Char :=
  layout.mark ::
    (if e < 0 then '-' :: digitsText e.natAbs
     else if layout.plus then '+' :: digitsText e.natAbs
     else digitsText e.natAbs)

def scientific (layout : Layout) (d : Digits) (magnitude : Int) : List Char :=
  match digitsText d.digits with
  | [] => []
  | [first] => first :: exponentText layout magnitude
  | first :: rest => first :: '.' :: (rest ++ exponentText layout magnitude)

def write (layout : Layout) (d : Digits) : List Char :=
  let magnitude := d.exponent + (digitsText d.digits).length - 1
  if layout.smallest ≤ magnitude ∧ magnitude ≤ layout.largest then layout.positional d
  else layout.scientific d magnitude

end Layout

-- Sign, exponent and fraction of the sixty-four bits.
def ofFloat (x : Float) : Bool × Binary :=
  let bits : Nat := x.toBits.toNat
  let negative := bits / Nat.pow 2 63 = 1
  let exponent : Nat := bits / Nat.pow 2 52 % Nat.pow 2 11
  let fraction : Nat := bits % Nat.pow 2 52
  if exponent = 0 then (negative, ⟨fraction, -1074⟩)
  else (negative, ⟨Nat.pow 2 52 + fraction, (exponent : Int) - 1075⟩)

def Layout.float (layout : Layout) (x : Float) : List Char :=
  let (negative, b) := ofFloat x
  let text := layout.write b.shortest
  if negative then '-' :: text else text

end Admission.Decimal
