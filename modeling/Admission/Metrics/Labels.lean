import Admission.Text.Order
/-!
The labels of a series, each a name and a value. Kept in order, so that a series does not depend
on the order in which its labels are given.
-/

namespace Admission.Metrics

abbrev Label := String × String

def Label.order (a b : Label) : Ordering := (Text.order a.1 b.1).then (Text.order a.2 b.2)

/-- What identifies a series: its labels in order, repeated ones included. -/
abbrev Labels := List Label

namespace Labels

def insert (a : Label) : Labels → Labels
  | [] => [a]
  | b :: rest => if Label.order a b = .gt then b :: insert a rest else a :: b :: rest

def ofList : List Label → Labels
  | [] => []
  | a :: rest => insert a (ofList rest)

def order : Labels → Labels → Ordering
  | [], [] => .eq
  | [], _ :: _ => .lt
  | _ :: _, [] => .gt
  | a :: as, b :: bs => (Label.order a b).then (order as bs)

end Labels

/-- A value between quotes: backslashes, quotes and line ends are escaped. -/
def escapeChar (c : Char) : List Char :=
  if c = '\\' then ['\\', '\\']
  else if c = '"' then ['\\', '"']
  else if c = '\n' then ['\\', 'n']
  else [c]

def labelChars (a : Label) : List Char :=
  a.1.toList ++ '=' :: '"' :: (a.2.toList.flatMap escapeChar ++ ['"'])

def joined : List (List Char) → List Char
  | [] => []
  | [x] => x
  | x :: rest => x ++ ',' :: joined rest

def Labels.chars (labels : Labels) : List Char := joined (labels.map labelChars)

end Admission.Metrics
