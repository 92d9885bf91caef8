/-!
UTF-8. `first` reads one character from the front of some bytes, or the longest beginning of one
that breaks off; the whole is then either refused or read with replacement characters.
-/

namespace Admission.Text.Utf8

def encode (cs : List Char) : List UInt8 := cs.flatMap String.utf8EncodeChar

def isContinuation (b : UInt8) : Bool := 0x80 ≤ b.toNat && b.toNat ≤ 0xBF

-- The second bytes that a leading byte admits: none that would make the form longer than needed,
-- a surrogate, or a number beyond the last character.
def secondRange (lead : Nat) : Nat × Nat :=
  if lead = 0xE0 then (0xA0, 0xBF)
  else if lead = 0xED then (0x80, 0x9F)
  else if lead = 0xF0 then (0x90, 0xBF)
  else if lead = 0xF4 then (0x80, 0x8F)
  else (0x80, 0xBF)

-- The bytes that follow a leading byte; none for a byte that leads nothing.
def following (lead : Nat) : Nat :=
  if 0xC2 ≤ lead ∧ lead ≤ 0xDF then 1
  else if 0xE0 ≤ lead ∧ lead ≤ 0xEF then 2
  else if 0xF0 ≤ lead ∧ lead ≤ 0xF4 then 3
  else 0

-- What a leading byte contributes to its character.
def leadBits (lead count : Nat) : Nat :=
  if count = 1 then lead % 32 else if count = 2 then lead % 16 else lead % 8

-- Takes the continuation bytes that are still needed.
def continueWith (n : Nat) : Nat → List UInt8 → Option Char × List UInt8
  | 0, bs => (some (Char.ofNat n), bs)
  | _ + 1, [] => (none, [])
  | count + 1, b :: bs =>
      if isContinuation b then continueWith (n * 64 + b.toNat % 64) count bs else (none, b :: bs)

-- The bytes after a leading byte, of which the first one is restricted.
def afterLead (lead : Nat) : List UInt8 → Option Char × List UInt8
  | [] => (none, [])
  | b :: bs =>
      let count := following lead
      let range := secondRange lead
      if range.1 ≤ b.toNat ∧ b.toNat ≤ range.2 then
        continueWith (leadBits lead count * 64 + b.toNat % 64) (count - 1) bs
      else (none, b :: bs)

def first (b : UInt8) (bs : List UInt8) : Option Char × List UInt8 :=
  if b.toNat < 0x80 then (some (Char.ofNat b.toNat), bs)
  else if following b.toNat = 0 then (none, bs)
  else afterLead b.toNat bs

-- The characters in turn, `none` for each piece that is not one. A piece has at least one byte.
def pieces : Nat → List UInt8 → List (Option Char)
  | 0, _ => []
  | _ + 1, [] => []
  | fuel + 1, b :: bs =>
      let (c, rest) := first b bs
      c :: pieces fuel rest

def replacement : Char := Char.ofNat 0xFFFD

def decodeLossy (bs : List UInt8) : List Char :=
  (pieces bs.length bs).map fun c => c.getD replacement

def decode? (bs : List UInt8) : Option (List Char) := (pieces bs.length bs).mapM id

end Admission.Text.Utf8
