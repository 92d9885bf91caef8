import Admission.Url.Domain.Label
/-!
Domain names. A name in any script is read as its ASCII form.
-/

namespace Admission.Url.Domain

-- Characters that no domain name has.
def forbidden (c : Char) : Bool :=
  c.toNat ≤ 0x20 || c.toNat == 0x7F || c == '#' || c == '%' || c == '/' || c == ':' || c == '<' ||
    c == '>' || c == '?' || c == '@' || c == '[' || c == '\\' || c == ']' || c == '^' || c == '|'

def joinLabels : List (List Char) → List Char
  | [] => []
  | [l] => l
  | l :: rest => l ++ '.' :: joinLabels rest

-- A name of both directions needs labels of one direction each.
def areValid (labels : List Label) : Bool :=
  labels.all Label.isValid && (!labels.any Label.turns || labels.all Label.oneDirection)

-- A blank or a control is not mapped to anything else, nor composed with a character.
def ascii? (name : List Char) : Option (List Char) := do
  if name.any (·.toNat ≤ 0x20) then none
  let mapped ← map? name
  if mapped.any forbidden then none
  let labels ← (Text.splitOn '.' mapped).mapM Label.read?
  if labels.all (·.all isAscii) then return mapped
  if !areValid labels then none
  return joinLabels (← labels.mapM Label.write?)

end Admission.Url.Domain
