import Admission.Text.Split
import Admission.Url.Encoding
/-!
Numeric hosts. An IPv4 address is up to four numbers, decimal, octal or hexadecimal, of which the
last one fills all places that are left. An IPv6 address is eight groups, of which one run of
zeros may be left out and the last two may be written as an IPv4 address.
-/

namespace Admission.Url

open Text (digit isDigit hexDigit numberFrom splitOn)

namespace Ipv4

/-- The base is told by the beginning; a base with no digits after it is zero. -/
def number : List Char → Option Nat
  | [] => none
  | '0' :: 'x' :: rest => numberFrom 16 0 rest
  | '0' :: 'X' :: rest => numberFrom 16 0 rest
  | ['0'] => some 0
  | '0' :: rest => numberFrom 8 0 rest
  | cs => numberFrom 10 0 cs

/-- The parts of a name, without the empty one behind a final dot. -/
def parts (name : List Char) : List (List Char) :=
  let parts := splitOn '.' name
  if 1 < parts.length ∧ parts.getLast? = some [] then parts.dropLast else parts

/-- A name whose last part is a number is an address or nothing. -/
def endsInNumber (name : List Char) : Bool :=
  match (parts name).getLast? with
  | none => false
  | some last => (last ≠ [] && last.all isDigit) || (number last).isSome

def fill (numbers : List Nat) (last : Nat) : Nat :=
  numbers.zipIdx.foldl (fun sum n => sum + n.1 * Nat.pow 256 (3 - n.2)) last

def parse (name : List Char) : Option Nat := do
  let parts := parts name
  if 4 < parts.length then none
  else
    let numbers ← parts.mapM number
    let last ← numbers.getLast?
    let front := numbers.dropLast
    if front.all (· < 256) ∧ last < Nat.pow 256 (4 - front.length) then some (fill front last)
    else none

def chars (address : Nat) : List Char :=
  let byte (n : Nat) := Nat.toDigits 10 (address / Nat.pow 256 n % 256)
  byte 3 ++ '.' :: (byte 2 ++ '.' :: (byte 1 ++ '.' :: byte 0))

end Ipv4

namespace Ipv6

/-- Up to `most` hexadecimal digits. -/
def group : Nat → Nat → List Char → Nat × List Char
  | _, n, [] => (n, [])
  | 0, n, cs => (n, cs)
  | most + 1, n, c :: rest =>
      match hexDigit c with
      | some d => group most (n * 16 + d) rest
      | none => (n, c :: rest)

/-- A decimal number up to 255 without a leading zero. -/
def byte : Option Nat → List Char → Option (Nat × List Char)
  | n, [] => n.map fun n => (n, [])
  | n, c :: rest =>
      match digit c, n with
      | none, n => n.map fun n => (n, c :: rest)
      | some d, none => byte (some d) rest
      | some _, some 0 => none
      | some d, some n => if n * 10 + d ≤ 255 then byte (some (n * 10 + d)) rest else none

/-- Four bytes with dots between them and nothing after them, as two groups. -/
def quad (cs : List Char) : Option (List Nat) := do
  let dot : List Char → Option (List Char)
    | '.' :: rest => some rest
    | _ => none
  let (a, cs) ← byte none cs
  let (b, cs) ← byte none (← dot cs)
  let (c, cs) ← byte none (← dot cs)
  let (d, cs) ← byte none (← dot cs)
  if cs = [] then some [a * 256 + b, c * 256 + d] else none

/-- The groups read so far, and how many of them stand before the gap. -/
structure Groups where
  values : List Nat
  gap : Option Nat

/-- One group, or the second colon of a gap, in front of the rest. Each round takes a character. -/
def scan : Nat → Groups → List Char → Option Groups
  | _, g, [] => some g
  | 0, _, _ :: _ => none
  | fuel + 1, g, ':' :: rest =>
      if g.gap.isSome ∨ 8 ≤ g.values.length then none
      else scan fuel { g with gap := some g.values.length } rest
  | fuel + 1, g, cs =>
      if 8 ≤ g.values.length + (if g.gap.isSome then 1 else 0) then none
      else
        let (n, after) := group 4 0 cs
        match after with
        | [] => some { g with values := g.values ++ [n] }
        | '.' :: _ =>
            if after.length = cs.length ∨ 6 < g.values.length + (if g.gap.isSome then 1 else 0)
            then none
            else (quad cs).map fun two => { g with values := g.values ++ two }
        | ':' :: rest =>
            if after.length = cs.length ∨ rest = [] then none
            else scan fuel { g with values := g.values ++ [n] } rest
        | _ => none

/-- The gap holds as many zeros as are missing; without one there are eight groups. -/
def complete (g : Groups) : Option (List Nat) :=
  match g.gap with
  | none => if g.values.length = 8 then some g.values else none
  | some before =>
      if g.values.length < 8 then
        some (g.values.take before ++ List.replicate (8 - g.values.length) 0 ++
          g.values.drop before)
      else none

def parse (cs : List Char) : Option (List Nat) := do
  let start ← match cs with
    | ':' :: ':' :: rest => some (⟨[], some 0⟩, rest)
    | ':' :: _ => none
    | [] => none
    | cs => some (⟨[], none⟩, cs)
  complete (← scan cs.length start.1 start.2)

/-- The place and length of the longest run of zeros, the first one of several. -/
def longestZeros (index : Nat) (best : Nat × Nat) : List Nat → Nat × Nat
  | [] => best
  | n :: rest =>
      let run := ((n :: rest).takeWhile (· = 0)).length
      longestZeros (index + 1) (if best.2 < run then (index, run) else best) rest

def joined : List (List Char) → List Char
  | [] => []
  | [x] => x
  | x :: rest => x ++ ':' :: joined rest

def chars (groups : List Nat) : List Char :=
  let text (ns : List Nat) := joined (ns.map (Nat.toDigits 16))
  let (start, length) := longestZeros 0 (0, 1) groups
  if length < 2 then text groups
  else text (groups.take start) ++ ':' :: ':' :: text (groups.drop (start + length))

end Ipv6

end Admission.Url
