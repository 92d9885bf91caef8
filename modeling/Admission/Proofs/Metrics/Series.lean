import Mathlib.Algebra.BigOperators.Group.List.Basic
import Mathlib.Data.UInt
import Admission.Metrics.Basic
import Admission.Proofs.Table
/-!
Series that count. A series is found again by its labels in whatever order they are given, and one
count changes one series. Counts commute, so what a counter holds says how often each series was
counted and nothing about when.
-/

namespace Admission

theorem Hook.label_inj {h h' : Hook} : h.label = h'.label ↔ h = h' := by
  cases h <;> cases h' <;> decide

theorem CallResult.label_inj {r r' : CallResult} : r.label = r'.label ↔ r = r' := by
  cases r <;> cases r' <;> decide

namespace Metrics

/-! Labels. -/

section Component

-- Labels are compared by their names and then by their values.
variable (component : Label → String)

theorem transCmp_component : Std.TransCmp fun a b => Text.order (component a) (component b) where
  eq_swap := Std.OrientedCmp.eq_swap
  isLE_trans := Std.TransCmp.isLE_trans

end Component

instance : Std.TransCmp Label.order :=
  have := transCmp_component Prod.fst
  have := transCmp_component Prod.snd
  inferInstanceAs (Std.TransCmp (compareLex (fun a b : Label => Text.order a.1 b.1)
    (fun a b : Label => Text.order a.2 b.2)))

instance : Std.LawfulEqCmp Label.order where
  compare_self := Std.ReflCmp.compare_self
  eq_of_compare {a b} same := by
    obtain ⟨name, value⟩ := Ordering.then_eq_eq.mp same
    exact Prod.ext (Std.LawfulEqCmp.eq_of_compare name) (Std.LawfulEqCmp.eq_of_compare value)

namespace Labels

theorem order_eq_compareLex (as bs : Labels) : order as bs = List.compareLex Label.order as bs := by
  induction as generalizing bs with
  | nil => cases bs <;> rfl
  | cons a as ih =>
    cases bs with
    | nil => rfl
    | cons b bs => rw [order, List.compareLex_cons_cons, ih]

instance : Std.TransCmp order := by
  rw [funext₂ order_eq_compareLex]
  infer_instance

instance : Std.LawfulEqCmp order := by
  rw [funext₂ order_eq_compareLex]
  infer_instance

theorem perm_insert (a : Label) (l : Labels) : (insert a l).Perm (a :: l) := by
  induction l with
  | nil => exact .refl _
  | cons b rest ih =>
    simp only [insert]
    split
    · exact (ih.cons b).trans (.swap a b rest)
    · exact .refl _

theorem perm_ofList (l : List Label) : (ofList l).Perm l := by
  induction l with
  | nil => exact .refl _
  | cons a rest ih => exact (perm_insert a _).trans (ih.cons a)

theorem mem_ofList {l : List Label} {a : Label} : a ∈ ofList l ↔ a ∈ l := (perm_ofList l).mem_iff

theorem mem_of_ofList_eq {l l' : List Label} (same : ofList l = ofList l') {a : Label}
    (member : a ∈ l) : a ∈ l' := by
  rwa [← mem_ofList, ← same, mem_ofList]

end Labels

theorem mem_decisionLabels {hook : Hook} {filter outcome : String} {a : Label} :
    a ∈ decisionLabels hook filter outcome ↔
      a = ("hook", hook.label) ∨ a = ("filter", filter) ∨ a = ("outcome", outcome) := by
  simp [decisionLabels]

theorem decisionLabels_inj {hook hook' : Hook} {filter filter' outcome outcome' : String} :
    Labels.ofList (decisionLabels hook filter outcome) =
        Labels.ofList (decisionLabels hook' filter' outcome') ↔
      hook = hook' ∧ filter = filter' ∧ outcome = outcome' := by
  constructor
  · intro same
    have first := Labels.mem_of_ofList_eq same (a := ("hook", hook.label))
      (by simp [decisionLabels])
    have second := Labels.mem_of_ofList_eq same (a := ("filter", filter)) (by simp [decisionLabels])
    have third := Labels.mem_of_ofList_eq same (a := ("outcome", outcome))
      (by simp [decisionLabels])
    simp only [mem_decisionLabels, Prod.mk.injEq, String.reduceEq, false_and, true_and, or_false,
      false_or] at first second third
    exact ⟨Hook.label_inj.mp first, second, third⟩
  · rintro ⟨rfl, rfl, rfl⟩
    rfl

theorem subset_decisionLabels_iff {hook hook' : Hook} {filter outcome outcome' : String} :
    [("hook", hook.label), ("outcome", outcome)] ⊆ decisionLabels hook' filter outcome' ↔
      hook = hook' ∧ outcome = outcome' := by
  simp [mem_decisionLabels, Hook.label_inj]

theorem hookLabels_inj {hook hook' : Hook} :
    Labels.ofList (hookLabels hook) = Labels.ofList (hookLabels hook') ↔ hook = hook' := by
  simp [hookLabels, Labels.ofList, Labels.insert, Hook.label_inj]

theorem callLabels_inj {hook hook' : Hook} {result result' : CallResult} :
    Labels.ofList (callLabels hook result) = Labels.ofList (callLabels hook' result') ↔
      hook = hook' ∧ result = result' := by
  constructor
  · intro same
    have first := Labels.mem_of_ofList_eq same (a := ("hook", hook.label)) (by simp [callLabels])
    have second := Labels.mem_of_ofList_eq same (a := ("result", result.label))
      (by simp [callLabels])
    simp only [callLabels, List.mem_pair, Prod.mk.injEq, String.reduceEq, false_and, true_and,
      or_false, false_or] at first second
    exact ⟨Hook.label_inj.mp first, CallResult.label_inj.mp second⟩
  · rintro ⟨rfl, rfl⟩
    rfl

/-- What grows by one at each step of a kind has grown by the number of these steps. -/
theorem foldl_counts {α β : Type} {f : α → β → α} (measure : α → UInt64) (p : β → Prop)
    [DecidablePred p] (step : ∀ a b, measure (f a b) = measure a + if p b then 1 else 0)
    (a : α) (bs : List β) : measure (bs.foldl f a) = measure a + UInt64.ofNat (bs.countP p) := by
  induction bs generalizing a with
  | nil => simp
  | cons b bs ih =>
    rw [List.foldl_cons, ih, step, List.countP_cons, UInt64.ofNat_add]
    by_cases here : p b <;> simp [here]
    ac_rfl

namespace Counter

variable {c : Counter} {labels l : List Label}

@[simp]
theorem get_nil : get labels ([] : Counter) = 0 := rfl

theorem get_inc : (c.inc l).get labels =
    c.get labels + if Labels.ofList labels = Labels.ofList l then 1 else 0 := by
  unfold get inc
  split <;> rename_i same
  · rw [same, Table.find?_alter_self]
    rfl
  · rw [Table.find?_alter_of_ne (mt Std.LawfulEqCmp.eq_of_compare same)]
    simp

theorem mem_keys_inc {key : Labels} : key ∈ (c.inc l).keys ↔ key = Labels.ofList l ∨ key ∈ c.keys :=
  Table.mem_keys_alter

theorem inc_comm (l l' : List Label) : (c.inc l).inc l' = (c.inc l').inc l :=
  Table.alter_comm fun _ => rfl

/-- Counts series one after another. -/
def incAll (c : Counter) (ls : List (List Label)) : Counter := ls.foldl (fun c l => c.inc l) c

@[simp]
theorem incAll_nil : c.incAll [] = c := rfl

@[simp]
theorem incAll_cons (ls : List (List Label)) : c.incAll (l :: ls) = (c.inc l).incAll ls := rfl

theorem incAll_append (ls ls' : List (List Label)) :
    c.incAll (ls ++ ls') = (c.incAll ls).incAll ls' := List.foldl_append

theorem incAll_perm {ls ls' : List (List Label)} (perm : ls.Perm ls') :
    c.incAll ls = c.incAll ls' :=
  perm.foldl_eq' (fun l _ l' _ _ => inc_comm l l') c

theorem get_incAll (ls : List (List Label)) : (c.incAll ls).get labels =
    c.get labels +
      UInt64.ofNat (ls.countP fun l => Labels.ofList labels = Labels.ofList l) :=
  foldl_counts (get labels) (fun l => Labels.ofList labels = Labels.ofList l)
    (fun _ _ => get_inc) c ls

theorem mem_keys_incAll {key : Labels} (ls : List (List Label)) :
    key ∈ (c.incAll ls).keys ↔ (∃ l ∈ ls, key = Labels.ofList l) ∨ key ∈ c.keys := by
  induction ls generalizing c with
  | nil => simp
  | cons l ls ih =>
    rw [incAll_cons, ih, mem_keys_inc]
    simp [or_left_comm, or_assoc]

/-- The sum over all series that carry the given labels, whatever others they carry. -/
def total (labels : List Label) (c : Counter) : UInt64 :=
  ((c.filter fun series => labels ⊆ series.1).map (·.2)).sum

theorem total_inc : (c.inc l).total labels = c.total labels + if labels ⊆ l then 1 else 0 := by
  have carried : labels ⊆ l ↔ labels ⊆ Labels.ofList l :=
    ⟨fun all a member => Labels.mem_ofList.mpr (all member),
      fun all a member => Labels.mem_ofList.mp (all member)⟩
  simp only [carried]
  unfold total inc
  induction c with
  | nil => by_cases here : labels ⊆ Labels.ofList l <;> simp [Table.alter, here]
  | cons head rest ih =>
    obtain ⟨key, n⟩ := head
    simp only [Table.alter]
    split <;> rename_i place
    · by_cases here : labels ⊆ Labels.ofList l
      · simp [here, UInt64.add_comm]
      · simp [here]
    · cases Std.LawfulEqCmp.eq_of_compare place
      by_cases here : labels ⊆ Labels.ofList l
      · simp only [here, List.filter_cons, decide_true, if_true, List.map_cons, List.sum_cons]
        ac_rfl
      · simp [here]
    · by_cases there : labels ⊆ key
      · simp only [there, List.filter_cons, decide_true, if_true, List.map_cons, List.sum_cons, ih]
        ac_rfl
      · simpa [there] using ih

theorem total_incAll (ls : List (List Label)) : (c.incAll ls).total labels =
    c.total labels + UInt64.ofNat (ls.countP fun l => labels ⊆ l) :=
  foldl_counts (total labels) (fun l => labels ⊆ l) (fun _ _ => total_inc) c ls

end Counter

namespace Histogram

variable {h : Histogram} {labels l : List Label} {d : Time.Delay}

@[simp]
theorem count_nil : count labels ([] : Histogram) = 0 := rfl

theorem count_observe : (h.observe l d).count labels =
    h.count labels + if Labels.ofList labels = Labels.ofList l then 1 else 0 := by
  unfold count observe
  split <;> rename_i same
  · rw [same, Table.find?_alter_self]
    cases h.find? Labels.order (Labels.ofList l) <;> rfl
  · rw [Table.find?_alter_of_ne (mt Std.LawfulEqCmp.eq_of_compare same)]
    simp

theorem mem_keys_observe {key : Labels} :
    key ∈ (h.observe l d).keys ↔ key = Labels.ofList l ∨ key ∈ h.keys :=
  Table.mem_keys_alter

/-- Observes durations of one series one after another. -/
def observeAll (labels : List Label) (ds : List Time.Delay) (h : Histogram) : Histogram :=
  ds.foldl (fun h d => h.observe labels d) h

theorem count_observeAll (ds : List Time.Delay) : (h.observeAll l ds).count labels =
    h.count labels + if Labels.ofList labels = Labels.ofList l then .ofNat ds.length else 0 := by
  have total := foldl_counts (count labels) (fun _ => Labels.ofList labels = Labels.ofList l)
    (f := fun h d => h.observe l d) (fun _ _ => count_observe) h ds
  refine total.trans ?_
  by_cases same : Labels.ofList labels = Labels.ofList l <;> simp [same]

theorem mem_keys_observeAll {key : Labels} {ds : List Time.Delay}
    (member : key ∈ (h.observeAll l ds).keys) : key = Labels.ofList l ∨ key ∈ h.keys := by
  induction ds generalizing h with
  | nil => exact .inr member
  | cons d ds ih =>
    rcases ih member with same | member
    · exact .inl same
    · exact mem_keys_observe.mp member

end Histogram

end Metrics

end Admission
