import Admission.Retry
import Mathlib.Algebra.Group.Nat.Defs
/-!
The delays before retries. Three of their steps stop at a limit of their own: the count of retries
at zero, the factor at the end of its word, and the product at the longest delay there is. All three
lie beyond the cap of the policy or beyond its last exact retry, so a delay is the exact product up
to that cap, and the delays never fall.
-/

namespace Admission

namespace Time.Delay

theorem ext {a b : Delay} (same : a.nanos = b.nanos) : a = b := by
  cases a
  cases b
  cases same
  rfl

theorem nanos_shorter (a b : Delay) : (a.shorter b).nanos = min a.nanos b.nanos := by
  unfold shorter
  split <;> omega

theorem nanos_ofNanos_of_le {n : Nat} (fits : n ≤ longestNanos) : (ofNanos n).nanos = n :=
  Nat.min_eq_left fits

/-! Delays are kept as seconds and the nanoseconds short of one more. -/

/-- Both parts are multiplied, and the full seconds among the nanoseconds are carried. There is no
product if the seconds leave their word. -/
def product? (d : Delay) (n : Nat) : Option Delay :=
  let small := d.subsecondNanos * n
  let seconds := d.seconds * n + small / 1000000000
  if seconds < UInt64.size then some (ofParts seconds (small % 1000000000)) else none

theorem subsecondNanos_mul_lt (d : Delay) {n : Nat} (word : n < UInt32.size) :
    d.subsecondNanos * n < UInt64.size := by
  have short : d.subsecondNanos < 1000000000 := Nat.mod_lt _ (by decide)
  calc d.subsecondNanos * n ≤ 1000000000 * UInt32.size :=
        Nat.mul_le_mul (Nat.le_of_lt short) (Nat.le_of_lt word)
    _ < UInt64.size := by decide

theorem nanos_mul (d : Delay) (n : Nat) :
    d.nanos * n = d.seconds * n * 1000000000 + d.subsecondNanos * n := by
  have parts : d.nanos = d.seconds * 1000000000 + d.subsecondNanos := by
    unfold seconds subsecondNanos
    omega
  rw [parts, Nat.add_mul, Nat.mul_right_comm]

theorem times_eq_product (d : Delay) (n : Nat) : d.times n = (d.product? n).getD longest := by
  apply ext
  have whole := nanos_mul d n
  unfold times product?
  generalize d.subsecondNanos * n = small at *
  generalize d.seconds * n = seconds at *
  by_cases fits : seconds + small / 1000000000 < UInt64.size
  · simp only [if_pos fits, Option.getD_some, ofParts, ofNanos, whole]
    omega
  · simp only [if_neg fits, Option.getD_none, ofNanos, longest, whole, longestNanos]
    unfold UInt64.size at *
    omega

end Time.Delay

namespace Retry

open Time (Delay longestNanos)

theorem factor_of_le {n : Nat} (few : n ≤ 32) : factor n = 2 ^ (n - 1) := by
  unfold factor
  rw [if_pos (by omega)]
  rfl

theorem factor_eq (n : Nat) : factor n = min (2 ^ (n - 1)) (UInt32.size - 1) := by
  by_cases few : n - 1 < 32
  · have small : 2 ^ (n - 1) ≤ 2 ^ 31 := Nat.pow_le_pow_right Nat.two_pos (by omega)
    rw [factor_of_le (by omega), UInt32.size]
    omega
  · have large : 2 ^ 32 ≤ 2 ^ (n - 1) := Nat.pow_le_pow_right Nat.two_pos (by omega)
    unfold factor
    rw [if_neg few, UInt32.size]
    omega

theorem factor_lt (n : Nat) : factor n < UInt32.size := by
  rw [factor_eq, UInt32.size]
  omega

theorem factor_mono {m n : Nat} (le : m ≤ n) : factor m ≤ factor n := by
  have grows : 2 ^ (m - 1) ≤ 2 ^ (n - 1) := Nat.pow_le_pow_right Nat.two_pos (by omega)
  rw [factor_eq, factor_eq]
  omega

/-- A product that is cut off at the longest delay is above the cap of the policy anyway. -/
theorem nanos_delay (r : Retry) (n : Nat) :
    (r.delay n).nanos = min (r.initial.nanos * factor n) r.longest.nanos := by
  have below := r.longest.le_longest
  have product : (r.initial.times (factor n)).nanos =
      min (r.initial.nanos * factor n) longestNanos := rfl
  rw [delay, Delay.nanos_shorter, product]
  omega

theorem nanos_delay_le (r : Retry) (n : Nat) : (r.delay n).nanos ≤ r.longest.nanos := by
  rw [nanos_delay]
  exact Nat.min_le_right _ _

theorem nanos_delay_mono (r : Retry) {m n : Nat} (le : m ≤ n) :
    (r.delay m).nanos ≤ (r.delay n).nanos := by
  have grows := Nat.mul_le_mul_left r.initial.nanos (factor_mono le)
  rw [nanos_delay, nanos_delay]
  omega

/-- The first delay is the initial one and each retry doubles it, in exact numbers, until the cap is
reached; where the factor no longer doubles, the delays still do not fall. No step on the way leaves
its word: what could is cut off. -/
theorem delay_schedule (r : Retry) :
    (∀ n, 1 ≤ n → n ≤ 32 →
      (r.delay n).nanos = min (r.initial.nanos * 2 ^ (n - 1)) r.longest.nanos) ∧
    (∀ n, (r.delay n).nanos ≤ r.longest.nanos) ∧
    r.delay 0 = r.delay 1 ∧
    (∀ m n, m ≤ n → (r.delay m).nanos ≤ (r.delay n).nanos) ∧
    (∀ m n, m ≤ n → r.delay m = r.longest → r.delay n = r.longest) ∧
    ∀ n, factor n < UInt32.size ∧ r.initial.subsecondNanos * factor n < UInt64.size ∧
      r.delay n = ((r.initial.product? (factor n)).getD Delay.longest).shorter r.longest := by
  refine ⟨?exact, r.nanos_delay_le, rfl, fun _ _ => r.nanos_delay_mono, ?stays, ?words⟩
  case exact =>
    intro n _ few
    rw [nanos_delay, factor_of_le few]
  case stays =>
    intro m n le reached
    apply Delay.ext
    have below := r.nanos_delay_le n
    have above := r.nanos_delay_mono le
    rw [reached] at above
    omega
  case words =>
    intro n
    have word := factor_lt n
    refine ⟨word, r.initial.subsecondNanos_mul_lt word, ?_⟩
    rw [← Delay.times_eq_product, delay]

-- One retry later the factor is all of its word, and no longer twice the last one.
example : ((⟨0, .ofNanos 1, Delay.longest⟩ : Retry).delay 32).nanos = 2147483648 ∧
    ((⟨0, .ofNanos 1, Delay.longest⟩ : Retry).delay 33).nanos = 4294967295 := by decide

end Retry

end Admission
