import Admission.Task
/-!
How tasks run. A wait is cut off by a deadline that lies before its end and by no other; without
a deadline nothing is cut off. What a task leaves as it is, its steps leave as it is, and two tasks
agree if their steps do.
-/

namespace Admission.Task

variable {σ α β : Type}

@[simp]
theorem run_pure (a : α) (s : Setting) (deadline : Option Nat) (j : Journal σ) :
    (Pure.pure a : Task σ α).run s deadline j = (some a, j) := rfl

theorem run_bind (t : Task σ α) (f : α → Task σ β) (s : Setting) (deadline : Option Nat)
    (j : Journal σ) :
    (t >>= f).run s deadline j =
      match t.run s deadline j with
      | (none, j) => (none, j)
      | (some a, j) => (f a).run s deadline j := rfl

theorem run_bind_some {t : Task σ α} {f : α → Task σ β} {s : Setting} {deadline : Option Nat}
    {j next : Journal σ} {a : α} (first : t.run s deadline j = (some a, next)) :
    (t >>= f).run s deadline j = (f a).run s deadline next := by
  rw [run_bind, first]

theorem run_bind_none {t : Task σ α} {f : α → Task σ β} {s : Setting} {deadline : Option Nat}
    {j next : Journal σ} (first : t.run s deadline j = (none, next)) :
    (t >>= f).run s deadline j = (none, next) := by
  rw [run_bind, first]

/-- Only a task whose parts are done is done. -/
theorem run_bind_eq_some {t : Task σ α} {f : α → Task σ β} {s : Setting} {deadline : Option Nat}
    {j last : Journal σ} {b : β} (ran : (t >>= f).run s deadline j = (some b, last)) :
    ∃ a next, t.run s deadline j = (some a, next) ∧ (f a).run s deadline next = (some b, last) := by
  rw [run_bind] at ran
  cases first : t.run s deadline j with
  | mk result next =>
    rw [first] at ran
    cases result with
    | none => cases ran
    | some a => exact ⟨a, next, rfl, ran⟩

@[simp]
theorem run_update (f : Journal σ → Journal σ) (s : Setting) (deadline : Option Nat)
    (j : Journal σ) : (update f).run s deadline j = (some (), f j) := rfl

@[simp]
theorem run_note (e : Event) (s : Setting) (deadline : Option Nat) (j : Journal σ) :
    (note e).run s deadline j = (some (), j.note e) := rfl

@[simp]
theorem run_journal (s : Setting) (deadline : Option Nat) (j : Journal σ) :
    (journal : Task σ (Journal σ)).run s deadline j = (some j, j) := rfl

theorem run_wait_in_time (nanos : Nat) (s : Setting) (deadline : Nat) (j : Journal σ)
    (inTime : j.elapsed + nanos ≤ deadline) :
    (wait nanos).run s (some deadline) j =
      (some (), { j with elapsed := j.elapsed + nanos }) := by
  simp [run, wait, inTime]

theorem run_wait_late (nanos : Nat) (s : Setting) (deadline : Nat) (j : Journal σ)
    (late : deadline < j.elapsed + nanos) :
    (wait nanos).run s (some deadline) j = (never : Task σ Unit).run s (some deadline) j := by
  simp [run, wait, Nat.not_le.mpr late]

theorem run_wait_unlimited (nanos : Nat) (s : Setting) (j : Journal σ) :
    (wait nanos).run s none j = (some (), { j with elapsed := j.elapsed + nanos }) := by
  simp [run, wait]

theorem run_wait_cases (nanos : Nat) (s : Setting) (deadline : Option Nat) (j : Journal σ) :
    (wait nanos).run s deadline j = (some (), { j with elapsed := j.elapsed + nanos }) ∨
      ∃ stop, (wait nanos).run s deadline j = (none, { j with elapsed := stop }) := by
  unfold run wait
  split
  · exact .inl rfl
  · exact .inr ⟨_, rfl⟩

theorem run_never (s : Setting) (deadline : Nat) (j : Journal σ) :
    (never : Task σ α).run s (some deadline) j =
      (none, { j with elapsed := max j.elapsed deadline }) := rfl

/-! What stays as it is. -/

variable {γ : Type} {view : Journal σ → γ}

/-- Whatever comes of it, the task does not change what `view` shows. -/
def Keeps (view : Journal σ → γ) (t : Task σ α) : Prop :=
  ∀ s deadline j, view (t.run s deadline j).2 = view j

theorem Keeps.eq_of_run {t : Task σ α} {s : Setting} {deadline : Option Nat} {j next : Journal σ}
    {result : Option α} (kept : t.Keeps view) (ran : t.run s deadline j = (result, next)) :
    view next = view j := by
  have same := kept s deadline j
  rwa [ran] at same

theorem keeps_pure (a : α) : (Pure.pure a : Task σ α).Keeps view := fun _ _ _ => rfl

theorem keeps_setting : (setting : Task σ Setting).Keeps view := fun _ _ _ => rfl

theorem keeps_journal : (journal : Task σ (Journal σ)).Keeps view := fun _ _ _ => rfl

theorem Keeps.bind {t : Task σ α} {f : α → Task σ β} (first : t.Keeps view)
    (next : ∀ a, (f a).Keeps view) : (t >>= f).Keeps view := by
  intro s deadline j
  have kept := first s deadline j
  rw [run_bind]
  cases ran : t.run s deadline j with
  | mk result after =>
    rw [ran] at kept
    cases result with
    | none => exact kept
    | some a => exact (next a s deadline after).trans kept

theorem keeps_update {f : Journal σ → Journal σ} (same : ∀ j, view (f j) = view j) :
    (update f).Keeps view := fun _ _ j => same j

theorem keeps_never (timeless : ∀ j n, view { j with elapsed := n } = view j) :
    (never : Task σ α).Keeps view := fun _ _ j => timeless j _

theorem keeps_wait (timeless : ∀ j n, view { j with elapsed := n } = view j) (nanos : Nat) :
    (wait nanos : Task σ Unit).Keeps view := by
  intro s deadline j
  unfold run wait
  split
  · exact timeless j _
  · exact timeless j _

/-! Tasks that end. -/

/-- Only a deadline can cut the task off. -/
def Finishes (t : Task σ α) : Prop := ∀ s j, ∃ a next, t.run s none j = (some a, next)

theorem finishes_pure (a : α) : (Pure.pure a : Task σ α).Finishes := fun _ _ => ⟨_, _, rfl⟩

theorem finishes_setting : (setting : Task σ Setting).Finishes := fun _ _ => ⟨_, _, rfl⟩

theorem finishes_update (f : Journal σ → Journal σ) : (update f).Finishes := fun _ _ => ⟨_, _, rfl⟩

theorem finishes_wait (nanos : Nat) : (wait nanos : Task σ Unit).Finishes :=
  fun s j => ⟨_, _, run_wait_unlimited nanos s j⟩

theorem Finishes.bind {t : Task σ α} {f : α → Task σ β} (first : t.Finishes)
    (next : ∀ a, (f a).Finishes) : (t >>= f).Finishes := by
  intro s j
  obtain ⟨a, middle, ran⟩ := first s j
  rw [run_bind_some ran]
  exact next a s middle

/-! Two runs. -/

section Agrees

variable {σ' α' β' : Type}

/-- Run in related settings, on related journals and with the same deadline, both tasks are done or
neither is, their results are related and so are the journals they leave. -/
def Agrees (S : Setting → Setting → Prop) (R : Journal σ → Journal σ' → Prop)
    (V : α → α' → Prop) (t : Task σ α) (t' : Task σ' α') : Prop :=
  ∀ s s' deadline j j', S s s' → R j j' →
    Option.Rel V (t.run s deadline j).1 (t'.run s' deadline j').1 ∧
      R (t.run s deadline j).2 (t'.run s' deadline j').2

/-- Journals that show the same time, and stay related when the same is written to both. -/
structure Mirrors (R : Journal σ → Journal σ' → Prop) : Prop where
  clock : ∀ {j j'}, R j j' → j.elapsed = j'.elapsed
  moves : ∀ {j j'}, R j j' → ∀ n, R { j with elapsed := n } { j' with elapsed := n }
  counts : ∀ {j j'}, R j j' → ∀ f, R (j.count f) (j'.count f)
  notes : ∀ {j j'}, R j j' → ∀ e, R (j.note e) (j'.note e)

theorem eq_of_rel {r r' : Option α} (same : Option.Rel Eq r r') : r = r' := by
  cases same with
  | none => rfl
  | some same => rw [same]

variable {S : Setting → Setting → Prop} {R : Journal σ → Journal σ' → Prop}
  {V : α → α' → Prop} {W : β → β' → Prop}

theorem agrees_pure {a : α} {a' : α'} (same : V a a') :
    Agrees S R V (Pure.pure a : Task σ α) (Pure.pure a' : Task σ' α') :=
  fun _ _ _ _ _ _ journals => ⟨.some same, journals⟩

theorem agrees_setting : Agrees S R S (setting : Task σ Setting) (setting : Task σ' Setting) :=
  fun _ _ _ _ _ settings journals => ⟨.some settings, journals⟩

theorem agrees_journal : Agrees S R R (journal : Task σ (Journal σ)) journal :=
  fun _ _ _ _ _ _ journals => ⟨.some journals, journals⟩

theorem Agrees.bind {t : Task σ α} {t' : Task σ' α'} {f : α → Task σ β} {f' : α' → Task σ' β'}
    (first : Agrees S R V t t') (next : ∀ a a', V a a' → Agrees S R W (f a) (f' a')) :
    Agrees S R W (t >>= f) (t' >>= f') := by
  intro s s' deadline j j' settings journals
  obtain ⟨results, journals⟩ := first s s' deadline j j' settings journals
  rw [run_bind, run_bind]
  cases ran : t.run s deadline j with
  | mk r after =>
    cases ran' : t'.run s' deadline j' with
    | mk r' after' =>
      rw [ran, ran'] at results journals
      cases results with
      | none => exact ⟨.none, journals⟩
      | some same => exact next _ _ same s s' deadline after after' settings journals

theorem agrees_update {f : Journal σ → Journal σ} {f' : Journal σ' → Journal σ'}
    (same : ∀ {j j'}, R j j' → R (f j) (f' j')) : Agrees S R Eq (update f) (update f') :=
  fun _ _ _ _ _ _ journals => ⟨.some rfl, same journals⟩

variable (mirrors : Mirrors R)

include mirrors

theorem Mirrors.note (e : Event) : Agrees S R Eq (note e : Task σ Unit) (note e : Task σ' Unit) :=
  agrees_update fun journals => mirrors.notes journals e

theorem Mirrors.count (f : Metrics → Metrics) :
    Agrees S R Eq (count f : Task σ Unit) (count f : Task σ' Unit) :=
  agrees_update fun journals => mirrors.counts journals f

theorem Mirrors.wait (nanos : Nat) :
    Agrees S R Eq (wait nanos : Task σ Unit) (wait nanos : Task σ' Unit) := by
  intro s s' deadline j j' settings journals
  have clock := mirrors.clock journals
  unfold run Task.wait
  rw [clock]
  split
  · exact ⟨.some rfl, mirrors.moves journals _⟩
  · unfold never
    rw [clock]
    exact ⟨.none, mirrors.moves journals _⟩

end Agrees

end Admission.Task
