import Admission.Metrics.Counter
import Admission.Time.Delay
/-!
Distributions of durations in whole microseconds, one for each set of labels. A bucket counts
the observations up to its bound, so every bucket holds the ones before it.
-/

namespace Admission.Metrics

/-- One millisecond to five seconds. -/
def bounds : List Nat :=
  [1000, 5000, 10000, 50000, 100000, 250000, 500000, 1000000, 5000000]

structure Distribution where
  count : UInt64 := 0
  sum : UInt64 := 0
  buckets : List UInt64 := bounds.map fun _ => 0
  deriving DecidableEq

def longestMicros : Nat := UInt64.size - 1

def Distribution.observe (micros : Nat) (d : Distribution) : Distribution :=
  { count := d.count + 1
    sum := d.sum + UInt64.ofNat micros
    buckets := List.zipWith (fun bound n => if micros ≤ bound then n + 1 else n) bounds d.buckets }

abbrev Histogram := Table Labels Distribution

namespace Histogram

def observe (labels : List Label) (d : Time.Delay) (h : Histogram) : Histogram :=
  h.alter Labels.order (Labels.ofList labels) {}
    (Distribution.observe (min d.micros longestMicros))

def count (labels : List Label) (h : Histogram) : UInt64 :=
  ((h.find? Labels.order (Labels.ofList labels)).map (·.count)).getD 0

def bucketLabel (bound : List Char) : List Char :=
  'l' :: 'e' :: '=' :: '"' :: (bound ++ ['"'])

/-- The bound comes after the other labels. -/
def withBound (labels : Labels) (bound : List Char) : List Char :=
  match labels with
  | [] => bucketLabel bound
  | _ :: _ => labels.chars ++ ',' :: bucketLabel bound

def named (name ending : String) : List Char := name.toList ++ ending.toList

def seriesChars (name : String) (labels : Labels) (d : Distribution) : List Char :=
  let bucket (bound : List Char) := sample (named name "_bucket") (withBound labels bound)
  (List.zipWith (fun bound n => bucket (natChars bound) n) bounds d.buckets).flatten ++
    bucket "+Inf".toList d.count ++
    sample (named name "_sum") labels.chars d.sum ++
    sample (named name "_count") labels.chars d.count

def chars (name : String) (h : Histogram) : List Char :=
  typeLine name.toList "histogram".toList ++
    h.flatMap fun series => seriesChars name series.1 series.2

end Histogram

end Admission.Metrics
