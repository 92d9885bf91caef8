import Admission.Url.Address
/-!
URLs in their parts, all of which are written with the characters of a URL only. `chars` puts
the parts together.
-/

namespace Admission

namespace Url

inductive Host where
  -- a domain, or the name of a server by rules of its scheme; empty for no server
  | name (chars : List Char)
  | ipv4 (address : Nat)
  | ipv6 (groups : List Nat)
  deriving DecidableEq, Repr

def Host.chars : Host → List Char
  | .name chars => chars
  | .ipv4 address => Ipv4.chars address
  | .ipv6 groups => '[' :: (Ipv6.chars groups ++ [']'])

inductive Path where
  -- of a URL that is no base for others, such as a mail address
  | whole (chars : List Char)
  | segments (parts : List (List Char))
  deriving DecidableEq, Repr

def Path.chars : Path → List Char
  | .whole chars => chars
  | .segments parts => parts.flatMap fun part => '/' :: part

end Url

structure Url where
  scheme : List Char
  username : List Char := []
  password : List Char := []
  host : Option Url.Host := none
  -- none where it is the usual one of the scheme
  port : Option Nat := none
  path : Url.Path
  query : Option (List Char) := none
  fragment : Option (List Char) := none
  deriving DecidableEq, Repr

namespace Url

def http : List Char := "http".toList

def https : List Char := "https".toList

def defaultPort (scheme : List Char) : Option Nat :=
  if scheme = http ∨ scheme = "ws".toList then some 80
  else if scheme = https ∨ scheme = "wss".toList then some 443
  else if scheme = "ftp".toList then some 21
  else none

def isFile (scheme : List Char) : Bool := scheme = "file".toList

/-- Schemes whose URLs name a server and separate segments by either slash. -/
def isSpecial (scheme : List Char) : Bool := (defaultPort scheme).isSome || isFile scheme

def credentialChars (u : Url) : List Char :=
  if u.username = [] ∧ u.password = [] then []
  else u.username ++ (if u.password = [] then [] else ':' :: u.password) ++ ['@']

def portChars : Option Nat → List Char
  | none => []
  | some n => ':' :: Nat.toDigits 10 n

/-- A path that starts with two slashes is not taken for a server. -/
def authorityChars (u : Url) : List Char :=
  match u.host, u.path with
  | some host, _ => '/' :: '/' :: (u.credentialChars ++ host.chars ++ portChars u.port)
  | none, .segments ([] :: _ :: _) => ['/', '.']
  | none, _ => []

def optionalChars (mark : Char) : Option (List Char) → List Char
  | none => []
  | some cs => mark :: cs

def withoutFragmentChars (u : Url) : List Char :=
  u.scheme ++ ':' :: (u.authorityChars ++ u.path.chars ++ optionalChars '?' u.query)

def chars (u : Url) : List Char := u.withoutFragmentChars ++ optionalChars '#' u.fragment

def write (u : Url) : String := String.ofList u.chars

def hasServer (u : Url) : Bool := u.host.isSome && u.host != some (.name [])

/-- Credentials that are UTF-8 are taken out; others stay. -/
def withoutCredentials (u : Url) : Url :=
  match Text.Utf8.decode? (decodeBytes u.username) with
  | none => u
  | some name =>
      if name = [] ∧ (u.password = [] ∨ (Text.Utf8.decode? (decodeBytes u.password)).isNone) then u
      else { u with username := [], password := [] }

end Url

end Admission
