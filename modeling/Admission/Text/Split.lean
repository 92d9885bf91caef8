/-!
Texts in parts.
-/

namespace Admission.Text

-- The parts between the characters that `p` holds of.
def splitWhere (p : Char → Bool) : List Char → List (List Char)
  | [] => [[]]
  | d :: rest =>
      if p d then [] :: splitWhere p rest
      else match splitWhere p rest with
        | part :: parts => (d :: part) :: parts
        | [] => [[d]]

def splitOn (c : Char) : List Char → List (List Char) := splitWhere (· == c)

def words (cs : List Char) : List (List Char) :=
  (splitWhere (fun c => c == ' ' || c == '\n') cs).filter (· ≠ [])

end Admission.Text
