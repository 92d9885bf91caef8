import Admission.Url.Basic
import Admission.Url.Domain.Basic
/-!
Reading a URL that stands alone. The text is taken apart from left to right: scheme, server,
path, query and fragment; each part is brought into its normal form on the way.
-/

namespace Admission.Url

open Text (isDigit numberFrom)

inductive Fault where
  | relative
  | emptyHost
  | invalidPort
  | invalidIpv4
  | invalidIpv6
  | invalidDomain
  | invalidName
  deriving DecidableEq, Repr

def Fault.message : Fault → String
  | .relative => "relative URL without a base"
  | .emptyHost => "empty host"
  | .invalidPort => "invalid port number"
  | .invalidIpv4 => "invalid IPv4 address"
  | .invalidIpv6 => "invalid IPv6 address"
  | .invalidDomain => "invalid international domain name"
  | .invalidName => "invalid domain character"

namespace Reader

def isOuter (c : Char) : Bool := c.toNat ≤ 0x20

def isLineBreak (c : Char) : Bool := c == '\t' || c == '\n' || c == '\r'

/-- Without controls and blanks at both ends, and without tabs and line ends anywhere. -/
def cleaned (cs : List Char) : List Char :=
  (((cs.dropWhile isOuter).reverse.dropWhile isOuter).reverse).filter fun c => !isLineBreak c

def isLetter (c : Char) : Bool :=
  (0x41 ≤ c.toNat && c.toNat ≤ 0x5A) || (0x61 ≤ c.toNat && c.toNat ≤ 0x7A)

def inScheme (c : Char) : Bool := isLetter c || isDigit c || c == '+' || c == '-' || c == '.'

/-- The scheme and what follows its colon. -/
def scheme (cs : List Char) : Option (List Char × List Char) :=
  match cs with
  | [] => none
  | c :: _ =>
      if !isLetter c then none
      else match cs.dropWhile inScheme with
        | ':' :: rest => some ((cs.takeWhile inScheme).map Domain.lower, rest)
        | _ => none

def isSlash (special : Bool) (c : Char) : Bool := c == '/' || (special && c == '\\')

def endsAuthority (special : Bool) (c : Char) : Bool := isSlash special c || c == '?' || c == '#'

/-! The server. -/

def literal (cs : List Char) : Except Fault Host :=
  match cs.getLast? with
  | some ']' =>
      match Ipv6.parse cs.dropLast with
      | some groups => .ok (.ipv6 groups)
      | none => .error .invalidIpv6
  | _ => .error .invalidIpv6

def domain (cs : List Char) : Except Fault Host :=
  match (Text.Utf8.decode? (decodeBytes cs)).bind Domain.ascii? with
  | none => .error .invalidDomain
  | some [] => .error .emptyHost
  | some name =>
      if Ipv4.endsInNumber name then
        match Ipv4.parse name with
        | some address => .ok (.ipv4 address)
        | none => .error .invalidIpv4
      else .ok (.name name)

def forbiddenInName (c : Char) : Bool :=
  c.toNat == 0 || c == ' ' || c == '#' || c == '/' || c == ':' || c == '<' || c == '>' ||
    c == '?' || c == '@' || c == '[' || c == '\\' || c == ']' || c == '^' || c == '|'

def otherName (cs : List Char) : Except Fault Host :=
  if cs.any forbiddenInName then .error .invalidName else .ok (.name (encodeWith isControl cs))

def host (special : Bool) (cs : List Char) : Except Fault Host :=
  match cs with
  | '[' :: rest => literal rest
  | _ => if special then domain cs else otherName cs

/-- The characters of a host: up to a colon outside brackets or the end of the authority. -/
def splitHost (special inBrackets : Bool) : List Char → List Char × List Char
  | [] => ([], [])
  | c :: rest =>
      if endsAuthority special c ∨ (c = ':' ∧ !inBrackets) then ([], c :: rest)
      else
        let bracket := if c = '[' then true else if c = ']' then false else inBrackets
        let (front, back) := splitHost special bracket rest
        (c :: front, back)

def endsPort (c : Char) : Bool := c == '/' || c == '\\' || c == '?' || c == '#'

/-- A port up to 65535, or none at all. -/
def port (cs : List Char) : Except Fault (Option Nat × List Char) :=
  let digits := cs.takeWhile isDigit
  let rest := cs.dropWhile isDigit
  let value := (numberFrom 10 0 digits).getD 0
  if 65535 < value then .error .invalidPort
  else match rest with
    | [] => .ok (if digits = [] then none else some value, [])
    | c :: _ =>
        if endsPort c then .ok (if digits = [] then none else some value, rest)
        else .error .invalidPort

/-- What stands before the last at sign of the authority, and the rest. -/
def splitUserinfo (special : Bool) : List Char → Option (List Char × List Char)
  | [] => none
  | c :: rest =>
      if endsAuthority special c then none
      else match splitUserinfo special rest with
        | some (front, back) => some (c :: front, back)
        | none => if c = '@' then some ([], rest) else none

def credentials (cs : List Char) : List Char × List Char :=
  (encodeWith inUserinfo (cs.takeWhile (· ≠ ':')),
    encodeWith inUserinfo ((cs.dropWhile (· ≠ ':')).drop 1))

structure Authority where
  username : List Char
  password : List Char
  host : Host
  port : Option Nat

/-- An at sign needs something in front of it or a host behind it. -/
def userinfo (special : Bool) (cs : List Char) :
    Except Fault ((List Char × List Char) × List Char) :=
  match splitUserinfo special cs with
  | none => .ok (([], []), cs)
  | some ([], rest) =>
      if (rest.head?.map (endsAuthority special)).getD false then .error .emptyHost
      else .ok (([], []), rest)
  | some (front, rest) => .ok (credentials front, rest)

def portAfter (server : Host) (cs : List Char) : Except Fault (Option Nat × List Char) :=
  match cs with
  | ':' :: rest => if server = .name [] then .error .emptyHost else port rest
  | _ => .ok (none, cs)

def authority (scheme : List Char) (cs : List Char) : Except Fault (Authority × List Char) := do
  let special := isSpecial scheme
  let (user, cs) ← userinfo special cs
  let (name, rest) := splitHost special false cs
  if special ∧ name = [] then .error .emptyHost
  let server ← host special name
  let (number, rest) ← portAfter server rest
  if server = .name [] ∧ user ≠ ([], []) then .error .emptyHost
  let number := if number = defaultPort scheme then none else number
  .ok (⟨user.1, user.2, server, number⟩, rest)

/-! The path. -/

def isSingleDot (part : List Char) : Bool :=
  let part := part.map Domain.lower
  part == ['.'] || part == ['%', '2', 'e']

def isDoubleDot (part : List Char) : Bool :=
  let part := part.map Domain.lower
  part == ['.', '.'] || part == ['.', '%', '2', 'e'] || part == ['%', '2', 'e', '.'] ||
    part == ['%', '2', 'e', '%', '2', 'e']

def isDrive : List Char → Bool
  | [letter, mark] => isLetter letter && (mark == ':' || mark == '|')
  | _ => false

/-- Drops the last segment; the drive of a file stays. -/
def shorten (file : Bool) : List (List Char) → List (List Char)
  | [] => []
  | [part] => if file ∧ isDrive part then [part] else []
  | parts => parts.dropLast

def normalDrive (part : List Char) : List Char :=
  if isDrive part then part.take 1 ++ [':'] else part

def addSegment (file last : Bool) (parts : List (List Char)) (raw : List Char) :
    List (List Char) :=
  let part := encodeWith inPath raw
  if isDoubleDot part then shorten file parts ++ (if last then [[]] else [])
  else if isSingleDot part then parts ++ (if last then [[]] else [])
  else if file ∧ parts = [] then [normalDrive part]
  else parts ++ [part]

def addSegments (file : Bool) (parts : List (List Char)) : List (List Char) → List (List Char)
  | [] => parts
  | [raw] => addSegment file true parts raw
  | raw :: rest => addSegments file (addSegment file false parts raw) rest

def splitSlashes (special : Bool) : List Char → List (List Char)
  | [] => [[]]
  | c :: rest =>
      if isSlash special c then [] :: splitSlashes special rest
      else match splitSlashes special rest with
        | part :: parts => (c :: part) :: parts
        | [] => [[c]]

def endsPath (c : Char) : Bool := c == '?' || c == '#'

/-- The segments of a path whose first slash has been read, and the rest. -/
def segments (scheme : List Char) (cs : List Char) : List (List Char) × List Char :=
  let raw := splitSlashes (isSpecial scheme) (cs.takeWhile fun c => !endsPath c)
  (addSegments (isFile scheme) [] raw, cs.dropWhile fun c => !endsPath c)

def dropSlash (special : Bool) : List Char → List Char
  | [] => []
  | c :: rest => if isSlash special c then rest else c :: rest

/-- The path behind a server. Only without a special scheme can it be empty. -/
def pathAfterServer (scheme : List Char) (cs : List Char) : List (List Char) × List Char :=
  let special := isSpecial scheme
  if !special ∧ (cs.head?.map endsPath).getD true then ([], cs)
  else segments scheme (dropSlash special cs)

/-! Query and fragment. -/

def tail (scheme : List Char) (cs : List Char) : Option (List Char) × Option (List Char) :=
  let set := if isSpecial scheme then inSpecialQuery else inQuery
  let fragment : List Char → Option (List Char)
    | '#' :: rest => some (encodeWith inFragment rest)
    | _ => none
  match cs with
  | '?' :: rest =>
      (some (encodeWith set (rest.takeWhile (· ≠ '#'))), fragment (rest.dropWhile (· ≠ '#')))
  | cs => (none, fragment cs)

def finish (u : Url) (rest : List Char) : Url :=
  let (query, fragment) := tail u.scheme rest
  { u with query := query, fragment := fragment }

def withServer (scheme : List Char) (cs : List Char) : Except Fault Url := do
  let (a, rest) ← authority scheme cs
  let (parts, rest) := pathAfterServer scheme rest
  .ok (finish { scheme := scheme, username := a.username, password := a.password,
                host := some a.host, port := a.port, path := .segments parts } rest)

def plain (scheme : List Char) (cs : List Char) : Except Fault Url :=
  match cs with
  | '/' :: '/' :: rest => withServer scheme rest
  | '/' :: rest =>
      let (parts, rest) := segments scheme rest
      .ok (finish { scheme := scheme, path := .segments parts } rest)
  | cs =>
      let text := encodeWith isControl (cs.takeWhile fun c => !endsPath c)
      .ok (finish { scheme := scheme, path := .whole text } (cs.dropWhile fun c => !endsPath c))

def dropEmpty : List (List Char) → List (List Char)
  | [] => [[]]
  | [part] => [part]
  | [] :: rest => dropEmpty rest
  | parts => parts

def startsWithDrive : List (List Char) → Bool
  | part :: _ => isDrive part
  | [] => false

/-- A file on this machine, unless a server stands before the path. -/
def file (scheme : List Char) (cs : List Char) : Except Fault Url := do
  let isEnd (c : Char) : Bool := isSlash true c || endsPath c
  let located (host : Host) (cs : List Char) : Url :=
    let (parts, rest) := segments scheme cs
    let host := if startsWithDrive parts then .name [] else host
    finish { scheme := scheme, host := some host, path := .segments (dropEmpty parts) } rest
  match cs with
  | [] => .ok (located (.name []) [])
  | c :: rest =>
      if !isSlash true c then .ok (located (.name []) cs)
      else match rest with
        | [] => .ok (located (.name []) [])
        | d :: after =>
            if !isSlash true d then .ok (located (.name []) rest)
            else
              let name := after.takeWhile fun c => !isEnd c
              let rest := after.dropWhile fun c => !isEnd c
              if isDrive name then .ok (located (.name []) after)
              else if name = [] then .ok (located (.name []) (dropSlash true rest))
              else
                let server ← host true name
                let server := if server = .name "localhost".toList then .name [] else server
                .ok (located server (dropSlash true rest))

end Reader

def parseChars (cs : List Char) : Except Fault Url :=
  match Reader.scheme (Reader.cleaned cs) with
  | none => .error .relative
  | some (scheme, rest) =>
      if isFile scheme then Reader.file scheme rest
      else if isSpecial scheme then
        Reader.withServer scheme (rest.dropWhile (Reader.isSlash true))
      else Reader.plain scheme rest

def parse (s : String) : Except Fault Url := parseChars s.toList

end Admission.Url
