import Mathlib.Data.List.Sort
import Admission.Proofs.Metrics.Series
/-!
Metrics as a record of calls. A series is known by its labels in any order. What it holds is told by
the calls with these labels: by how many they are and, for durations, by how long they took. Other
calls leave it as it is, and the order of the calls does not matter.
-/

namespace Admission

namespace Metrics

namespace Labels

/-- The order in which labels are kept. -/
def Upto (a b : Label) : Prop := (Label.order a b).isLE = true

instance : DecidableRel Upto := fun _ _ => inferInstanceAs (Decidable (_ = true))

instance : IsTrans Label Upto := ⟨fun _ _ _ => Std.TransCmp.isLE_trans⟩

theorem order_swap (a b : Label) : Label.order a b = (Label.order b a).swap :=
  Std.OrientedCmp.eq_swap

instance : Std.Total Upto where
  total a b := by
    unfold Upto
    rw [order_swap a b]
    cases Label.order b a <;> simp

instance : Std.Antisymm Upto where
  antisymm a b first second := by
    unfold Upto at first second
    rw [order_swap] at second
    have place : Label.order a b = .eq := by
      cases place : Label.order a b <;> simp_all
    exact Std.LawfulEqCmp.eq_of_compare place

theorem insert_eq_orderedInsert (a : Label) (l : Labels) :
    insert a l = l.orderedInsert Upto a := by
  induction l with
  | nil => rfl
  | cons b rest ih =>
    rw [insert, List.orderedInsert_cons, ih]
    by_cases above : Label.order a b = .gt
    · have behind : ¬ Upto a b := by simp [Upto, above]
      rw [if_pos above, if_neg behind]
    · have before : Upto a b := Ordering.ne_gt_iff_isLE.mp above
      rw [if_neg above, if_pos before]

theorem ofList_eq_insertionSort (l : List Label) : ofList l = l.insertionSort Upto := by
  induction l with
  | nil => rfl
  | cons a rest ih => rw [ofList, ih, insert_eq_orderedInsert, List.insertionSort_cons]

/-- The labels of a series can be given in any order, and other labels are another series. -/
theorem ofList_eq_iff {l l' : List Label} : ofList l = ofList l' ↔ l.Perm l' := by
  constructor
  · intro same
    exact (perm_ofList l).symm.trans (same ▸ perm_ofList l')
  · intro perm
    have sorted (l : List Label) : (ofList l).Pairwise Upto :=
      ofList_eq_insertionSort l ▸ List.pairwise_insertionSort Upto l
    exact ((perm_ofList l).trans (perm.trans (perm_ofList l').symm)).eq_of_pairwise'
      (sorted l) (sorted l')

end Labels

/-! Distributions. -/

namespace Distribution

/-- What a distribution says of the observations it was made from, in words that wrap around: with a
bucket for each of the limits. -/
structure Tells (limits micros : List Nat) (d : Distribution) : Prop where
  count : d.count = .ofNat micros.length
  sum : d.sum = .ofNat micros.sum
  buckets : d.buckets = limits.map fun limit => .ofNat (micros.countP (· ≤ limit))

theorem tells_nil : Tells bounds [] {} := ⟨rfl, rfl, by simp⟩

theorem Tells.observe {micros : List Nat} {d : Distribution} (tells : Tells bounds micros d)
    (n : Nat) : Tells bounds (micros ++ [n]) (d.observe n) := by
  refine ⟨?count, ?sum, ?buckets⟩
  case count => simp [Distribution.observe, tells.count]
  case sum => simp [Distribution.observe, tells.sum]
  case buckets =>
    simp only [Distribution.observe, tells.buckets, List.zipWith_map_right, List.zipWith_self]
    apply List.map_congr_left
    intro bound _
    rw [List.countP_append, UInt64.ofNat_add, List.countP_singleton]
    by_cases within : n ≤ bound <;> simp [within]

theorem Tells.observeAll {micros : List Nat} {d : Distribution} (tells : Tells bounds micros d)
    (more : List Nat) : Tells bounds (micros ++ more) (more.foldl (fun d n => d.observe n) d) := by
  induction more generalizing micros d with
  | nil => rwa [List.append_nil]
  | cons n more ih =>
    rw [List.append_cons]
    exact ih (tells.observe n)

/-- A bucket holds those before it, and there are no more observations than were counted, until the
count wraps around. -/
theorem Tells.cumulative {micros : List Nat} {d : Distribution} (tells : Tells bounds micros d)
    (few : micros.length < 2 ^ 64) :
    d.buckets.Pairwise (· ≤ ·) ∧ ∀ n ∈ d.buckets, n ≤ d.count := by
  have whole (p : Nat → Bool) : (UInt64.ofNat (micros.countP p)).toNat = micros.countP p :=
    UInt64.toNat_ofNat_of_lt' (Nat.lt_of_le_of_lt List.countP_le_length few)
  have length : (UInt64.ofNat micros.length).toNat = micros.length :=
    UInt64.toNat_ofNat_of_lt' few
  rw [tells.buckets, tells.count]
  constructor
  · have ascending : bounds.Pairwise (· ≤ ·) := by decide
    refine List.pairwise_map.mpr (ascending.imp ?_)
    intro low high below
    rw [UInt64.le_iff_toNat_le, whole, whole]
    exact List.countP_mono_left fun n _ within => by simp_all; omega
  · intro n member
    obtain ⟨bound, _, rfl⟩ := List.mem_map.mp member
    rw [UInt64.le_iff_toNat_le, whole, length]
    exact List.countP_le_length

/-- The order of two observations leaves no trace. -/
theorem observe_comm (d : Distribution) (n n' : Nat) :
    (d.observe n').observe n = (d.observe n).observe n' := by
  have each (bs : List Nat) (l : List UInt64) :
      List.zipWith (fun bound c => if n ≤ bound then c + 1 else c) bs
          (List.zipWith (fun bound c => if n' ≤ bound then c + 1 else c) bs l) =
        List.zipWith (fun bound c => if n' ≤ bound then c + 1 else c) bs
          (List.zipWith (fun bound c => if n ≤ bound then c + 1 else c) bs l) := by
    induction bs generalizing l with
    | nil => rfl
    | cons bound bs ih =>
      cases l with
      | nil => rfl
      | cons c l =>
        rw [List.zipWith_cons_cons, List.zipWith_cons_cons, List.zipWith_cons_cons,
          List.zipWith_cons_cons, ih]
        by_cases first : n ≤ bound <;> by_cases second : n' ≤ bound <;> simp [first, second]
  simp only [observe, each, Distribution.mk.injEq, and_true, true_and]
  ac_rfl

end Distribution

namespace Histogram

variable {h : Histogram} {labels l : List Label} {d : Time.Delay}

/-- Whole microseconds, as many as a word can hold. -/
def micros (d : Time.Delay) : Nat := min d.micros (2 ^ 64 - 1)

theorem find?_observe : (h.observe l d).find? Labels.order (Labels.ofList labels) =
    if labels.Perm l then
      some (((h.find? Labels.order (Labels.ofList labels)).getD {}).observe (micros d))
    else h.find? Labels.order (Labels.ofList labels) := by
  unfold observe
  by_cases same : labels.Perm l
  · rw [if_pos same, Labels.ofList_eq_iff.mpr same, Table.find?_alter_self]
    rfl
  · rw [if_neg same, Table.find?_alter_of_ne]
    exact fun equal => same (Labels.ofList_eq_iff.mp (Std.LawfulEqCmp.eq_of_compare equal))

theorem observe_comm (l l' : List Label) (d d' : Time.Delay) :
    (h.observe l' d').observe l d = (h.observe l d).observe l' d' :=
  Table.alter_comm fun v => v.observe_comm (min d.micros longestMicros)
    (min d'.micros longestMicros)

end Histogram

/-! Calls. -/

/-- What can be counted. -/
inductive Meter where
  | decisions
  | exempt
  | remoteCalls
  deriving DecidableEq

namespace Meter

def of : Meter → Metrics → Counter
  | .decisions, m => m.decisions
  | .exempt, m => m.exempt
  | .remoteCalls, m => m.remoteCalls

def inc (labels : List Label) : Meter → Metrics → Metrics
  | .decisions, m => { m with decisions := m.decisions.inc labels }
  | .exempt, m => { m with exempt := m.exempt.inc labels }
  | .remoteCalls, m => { m with remoteCalls := m.remoteCalls.inc labels }

variable {k k' : Meter} {labels : List Label} {m : Metrics}

theorem of_inc : k.of (k'.inc labels m) = if k = k' then (k.of m).inc labels else k.of m := by
  cases k <;> cases k' <;> rfl

theorem remoteCallDuration_inc : (k.inc labels m).remoteCallDuration = m.remoteCallDuration := by
  cases k <;> rfl

end Meter

theorem ext_of {m m' : Metrics} (counters : ∀ k : Meter, k.of m = k.of m')
    (durations : m.remoteCallDuration = m'.remoteCallDuration) : m = m' := by
  have decisions := counters .decisions
  have exempt := counters .exempt
  have remoteCalls := counters .remoteCalls
  cases m
  cases m'
  simp_all [Meter.of]

/-- A call that changes metrics. -/
inductive Update where
  | inc (meter : Meter) (labels : List Label)
  | observe (labels : List Label) (d : Time.Delay)

namespace Update

def labels : Update → List Label
  | .inc _ l => l
  | .observe l _ => l

def apply : Update → Metrics → Metrics
  | .inc k l, m => k.inc l m
  | .observe l d, m => { m with remoteCallDuration := m.remoteCallDuration.observe l d }

/-- It counts the series with these labels, in whatever order it gives them. -/
def Counts (k : Meter) (labels : List Label) (u : Update) : Prop :=
  ∃ l, u = .inc k l ∧ labels.Perm l

instance (k : Meter) (labels : List Label) : DecidablePred (Counts k labels)
  | .inc k' l => decidable_of_iff (k' = k ∧ labels.Perm l) (by simp [Counts])
  | .observe _ _ => isFalse (by simp [Counts])

/-- The microseconds it observes for the series with these labels. -/
def observed? (labels : List Label) : Update → Option Nat
  | .inc _ _ => none
  | .observe l d => if labels.Perm l then some (Histogram.micros d) else none

variable {k : Meter} {labels : List Label} {m : Metrics} {u v : Update}

theorem of_observe {l : List Label} {d : Time.Delay} :
    k.of (apply (.observe l d) m) = k.of m := by
  cases k <;> rfl

theorem get_apply : (k.of (u.apply m)).get labels =
    (k.of m).get labels + if u.Counts k labels then 1 else 0 := by
  cases u with
  | inc k' l =>
    rw [apply, Meter.of_inc]
    by_cases here : k = k'
    · subst here
      rw [if_pos rfl, Counter.get_inc]
      simp only [Labels.ofList_eq_iff, Counts, Update.inc.injEq, true_and]
      simp
    · rw [if_neg here]
      simp [Counts, Ne.symm here]
  | observe l d =>
    rw [of_observe]
    simp [Counts]

theorem find?_apply_of_not_counts (other : ¬ u.Counts k labels) :
    (k.of (u.apply m)).find? Labels.order (Labels.ofList labels) =
      (k.of m).find? Labels.order (Labels.ofList labels) := by
  cases u with
  | inc k' l =>
    rw [apply, Meter.of_inc]
    by_cases here : k = k'
    · subst here
      rw [if_pos rfl]
      apply Table.find?_alter_of_ne
      intro equal
      exact other ⟨l, rfl, Labels.ofList_eq_iff.mp (Std.LawfulEqCmp.eq_of_compare equal)⟩
    · rw [if_neg here]
  | observe l d => rw [of_observe]

theorem find?_apply : (u.apply m).remoteCallDuration.find? Labels.order (Labels.ofList labels) =
    (u.observed? labels).elim (m.remoteCallDuration.find? Labels.order (Labels.ofList labels))
      fun n => some (((m.remoteCallDuration.find? Labels.order (Labels.ofList labels)).getD
        {}).observe n) := by
  cases u with
  | inc k l => rw [apply, Meter.remoteCallDuration_inc, observed?, Option.elim_none]
  | observe l d =>
    rw [apply, Histogram.find?_observe, observed?]
    split <;> rfl

/-- Two calls can be made in either order. -/
theorem apply_comm (u v : Update) (m : Metrics) : u.apply (v.apply m) = v.apply (u.apply m) := by
  cases u with
  | observe l d =>
    cases v with
    | observe l' d' => simp only [apply, Histogram.observe_comm l l' d d']
    | inc k' l' => cases k' <;> rfl
  | inc k l =>
    cases v with
    | observe l' d' => cases k <;> rfl
    | inc k' l' =>
      apply ext_of
      · intro j
        simp only [apply, Meter.of_inc]
        split
        · split
          · exact (Counter.inc_comm l l').symm
          · rfl
        · rfl
      · simp only [apply, Meter.remoteCallDuration_inc]

end Update

/-- Makes calls one after another. -/
def replay (us : List Update) (m : Metrics) : Metrics := us.foldl (fun m u => u.apply m) m

/-- The microseconds that calls observe for the series with these labels. -/
def observed (labels : List Label) (us : List Update) : List Nat :=
  us.filterMap (Update.observed? labels)

section Replay

variable {k : Meter} {labels : List Label} {us us' : List Update} (m : Metrics)

theorem replay_perm (perm : us.Perm us') : replay us m = replay us' m :=
  perm.foldl_eq' (fun u _ v _ m => Update.apply_comm v u m) m

theorem get_replay : (k.of (replay us m)).get labels =
    (k.of m).get labels + .ofNat (us.countP (Update.Counts k labels)) :=
  foldl_counts (fun m => (k.of m).get labels) (Update.Counts k labels)
    (fun _ _ => Update.get_apply) m us

theorem find?_replay_of_not_counts (other : ∀ u ∈ us, ¬ u.Counts k labels) :
    (k.of (replay us m)).find? Labels.order (Labels.ofList labels) =
      (k.of m).find? Labels.order (Labels.ofList labels) := by
  induction us generalizing m with
  | nil => rfl
  | cons u us ih =>
    obtain ⟨head, tail⟩ := List.forall_mem_cons.mp other
    exact (ih (u.apply m) tail).trans (Update.find?_apply_of_not_counts head)

theorem find?_replay :
    (replay us m).remoteCallDuration.find? Labels.order (Labels.ofList labels) =
      (observed labels us).foldl (fun d n => some ((d.getD {}).observe n))
        (m.remoteCallDuration.find? Labels.order (Labels.ofList labels)) := by
  induction us generalizing m with
  | nil => rfl
  | cons u us ih =>
    have step : replay (u :: us) m = replay us (u.apply m) := rfl
    rw [step, ih, Update.find?_apply]
    unfold observed
    rw [List.filterMap_cons]
    cases u.observed? labels <;> rfl

end Replay

theorem foldl_observe (micros : List Nat) (d : Distribution) :
    micros.foldl (fun d n => some ((d.getD {}).observe n)) (some d) =
      some (micros.foldl (fun d n => d.observe n) d) := by
  induction micros generalizing d with
  | nil => rfl
  | cons n micros ih => exact ih (d.observe n)

/-- A series of durations is there once it was observed, and tells of its observations. -/
theorem tells_replay (labels : List Label) (us : List Update) :
    let found := (replay us {}).remoteCallDuration.find? Labels.order (Labels.ofList labels)
    (found = none ↔ observed labels us = []) ∧
      ∀ d, found = some d → d.Tells bounds (observed labels us) := by
  have start : ({} : Metrics).remoteCallDuration.find? Labels.order (Labels.ofList labels) =
      none := rfl
  intro found
  have same : found = _ := find?_replay {}
  rw [same, start]
  cases observed labels us with
  | nil => simp
  | cons n more =>
    rw [List.foldl_cons, foldl_observe]
    refine ⟨by simp, ?_⟩
    intro d built
    cases built
    exact Distribution.tells_nil.observeAll (n :: more)

end Metrics

end Admission
