import Admission.Metrics.Labels
import Admission.Table
/-!
Counters, one for each set of labels. They count in words of sixty-four bits and wrap around.
-/

namespace Admission.Metrics

abbrev Counter := Table Labels UInt64

namespace Counter

def inc (labels : List Label) (c : Counter) : Counter :=
  Table.alter Labels.order (Labels.ofList labels) 0 (· + 1) c

/-- Zero for a series that was never counted. -/
def get (labels : List Label) (c : Counter) : UInt64 :=
  (c.find? Labels.order (Labels.ofList labels)).getD 0

end Counter

def natChars (n : Nat) : List Char := Nat.toDigits 10 n

/-- One line: the name, the labels in braces and the value. -/
def sample (name labels : List Char) (value : UInt64) : List Char :=
  name ++ '\x7b' :: (labels ++ '\x7d' :: ' ' :: (natChars value.toNat ++ ['\n']))

def typeLine (name kind : List Char) : List Char :=
  '#' :: ' ' :: 'T' :: 'Y' :: 'P' :: 'E' :: ' ' :: (name ++ ' ' :: (kind ++ ['\n']))

def Counter.chars (name : String) (c : Counter) : List Char :=
  typeLine name.toList "counter".toList ++
    c.flatMap fun series => sample name.toList series.1.chars series.2

end Admission.Metrics
