import Admission.Text.Direction
import Admission.Text.Joining
import Admission.Url.Domain.Punycode
/-!
The labels of a domain name, between its dots: which ones are valid, and how they are written.
-/

namespace Admission.Url.Domain

-- A label of characters as they are meant.
abbrev Label := List Char

namespace Label

def mark : List Char := ['x', 'n', '-', '-']

-- A label that is marked stands for another, which must need the mark and must be mapped to itself.
def read? (written : List Char) : Option Label :=
  if written.take 4 = mark then do
    let code := written.drop 4
    let l ← if code.all isAscii && code.length ≤ 2000 then Punycode.decode? code else none
    if l.all isAscii ∨ !l.all isFinal ∨ Text.composed l ≠ l then none else some l
  else some written

def write? (l : Label) : Option (List Char) :=
  if l.all isAscii then some l
  else if 1000 < l.length then none
  else some (mark ++ Punycode.encode l)

def nonJoiner : Char := Char.ofNat 0x200C

def joiner : Char := Char.ofNat 0x200D

-- A joiner follows a silenced letter. What keeps letters apart may also stand between two that
-- would join. What comes before is given from the end.
def joinersFit (before : List Char) : List Char → Bool
  | [] => true
  | c :: rest =>
      let silenced := (before.head?.map Text.isSilencer).getD false
      (if c = nonJoiner then
        silenced ||
          Text.firstJoined Text.joinsNext before && Text.firstJoined Text.joinsPrevious rest
      else if c = joiner then silenced
      else true) && joinersFit (c :: before) rest

open Text (Direction)

-- Makes a name one of both directions.
def turns (l : Label) : Bool :=
  l.any fun c => Direction.ofChar c == .leftward || Direction.ofChar c == .arabicNumber

def lastDirection? (ds : List Direction) : Option Direction := (ds.filter (· ≠ .mark)).getLast?

-- A label runs in the direction of its first character, and ends in it or in a number.
def oneDirection (l : Label) : Bool :=
  let ds := l.map Direction.ofChar
  match ds with
  | [] => true
  | .rightward :: _ =>
      !ds.contains .leftward && !ds.contains .arabicNumber &&
        (lastDirection? ds == some .rightward || lastDirection? ds == some .number)
  | .leftward :: _ =>
      !ds.contains .rightward && !(ds.contains .number && ds.contains .arabicNumber) &&
        lastDirection? ds != some .neutral
  | _ => false

def isValid (l : Label) : Bool := !(l.head?.map Text.isMark).getD false && joinersFit [] l

end Label

end Admission.Url.Domain
