/-!
Texts in the order of their code points, which is the order of their UTF-8 bytes.
-/

namespace Admission.Text

def compareChars : List Char → List Char → Ordering
  | [], [] => .eq
  | [], _ :: _ => .lt
  | _ :: _, [] => .gt
  | a :: as, b :: bs =>
      if a.toNat < b.toNat then .lt
      else if b.toNat < a.toNat then .gt
      else compareChars as bs

def order (a b : String) : Ordering := compareChars a.toList b.toList

end Admission.Text
