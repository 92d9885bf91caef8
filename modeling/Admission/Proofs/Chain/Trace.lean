import Mathlib.Logic.Relator
import Admission.Proofs.Chain.Scan
/-!
What happens at a visit, call by call: which filters are called, how each call ends, and what is
reported about it. A report is what the counters and the log know of a decision. Of the reports
of a visit only the last can say that something was blocked, and then it is what the visit came to.
A visit whose budget the clock cannot show calls nobody and reports nothing.
-/

namespace Admission

/-- A decision as the counters and the log know it. -/
@[ext]
structure Report where
  hook : Hook
  filter : String
  outcome : String
  deriving DecidableEq

variable {σ : Type}

/-- A filter that only looks at the context and the change: asked the same with as much time left,
it ends in the same way and after the same time, whatever came before. -/
def Filter.Steady (f : Filter σ) : Prop :=
  ∀ {ctx change s s' deadline deadline' ending ending'} {j j' after after' : Journal σ},
    (f.call ctx change).run s (some deadline) j = (ending, after) →
    (f.call ctx change).run s' (some deadline') j' = (ending', after') →
    deadline + j'.elapsed = deadline' + j.elapsed →
    ending = ending' ∧ after.elapsed + j'.elapsed = after'.elapsed + j.elapsed

theorem Probe.filter_steady (p : Probe) : p.filter.Steady := by
  intro ctx change s s' deadline deadline' ending ending' j j' after after' ran ran' clock
  cases course : p.course ctx change with
  | never =>
    cases (run_never s deadline j course).symm.trans ran
    cases (run_never s' deadline' j' course).symm.trans ran'
    refine ⟨rfl, ?_⟩
    simp only
    omega
  | ends takes ending =>
    by_cases inTime : j.elapsed + takes ≤ deadline
    · cases (run_in_time s deadline j course inTime).symm.trans ran
      cases (run_in_time s' deadline' j' course (by omega)).symm.trans ran'
      refine ⟨rfl, ?_⟩
      simp only
      omega
    · cases (run_late s deadline j course (by omega)).symm.trans ran
      cases (run_late s' deadline' j' course (by omega)).symm.trans ran'
      refine ⟨rfl, ?_⟩
      simp only
      omega

/-- One question to a chain, in the setting it has then. -/
structure Visit where
  setting : Setting
  context : Context
  change : Change

namespace Chain

instance (ctx : Context) (change : Change) : Decidable (Sound ctx change) :=
  inferInstanceAs (Decidable (_ ∧ _))

variable (c : Chain σ) (v : Visit)

/-! One visit. -/

def verdict (call : Filter σ × Option Ending) : Decision :=
  c.decisionOf call.1.name v.change.hook call.2

def report (call : Filter σ × Option Ending) : Report :=
  ⟨v.change.hook, call.1.name, (c.verdict v call).outcome⟩

/-- A scan with the calls it makes, each with what came of it. -/
inductive Traced (deadline : Nat) : List (Filter σ) → Journal σ →
    List (Filter σ × Option Ending) → Decision → Journal σ → Prop where
  | allowed (j : Journal σ) : Traced deadline [] j [] .allow j
  | goesOn {f : Filter σ} {rest : List (Filter σ)} {j after last : Journal σ}
      {ending : Option Ending} {calls : List (Filter σ × Option Ending)} {d : Decision}
      (ran : (f.call v.context v.change).run v.setting (some deadline) j = (ending, after))
      (allows : c.verdict v (f, ending) = .allow)
      (more : Traced deadline rest (record v.change.hook f.name v.context .allow after) calls d
        last) :
      Traced deadline (f :: rest) j ((f, ending) :: calls) d last
  | stopped {f : Filter σ} {rest : List (Filter σ)} {j after : Journal σ} {ending : Option Ending}
      {d : Decision}
      (ran : (f.call v.context v.change).run v.setting (some deadline) j = (ending, after))
      (decides : c.verdict v (f, ending) = d) (stop : d ≠ .allow) :
      Traced deadline (f :: rest) j [(f, ending)] d (record v.change.hook f.name v.context d after)

/-- The calls of a scan. -/
def calls (deadline : Nat) : List (Filter σ) → Journal σ → List (Filter σ × Option Ending)
  | [], _ => []
  | f :: rest, j =>
      let (ending, after) := (f.call v.context v.change).run v.setting (some deadline) j
      let d := c.verdict v (f, ending)
      (f, ending) ::
        if d.isAllow then calls deadline rest (record v.change.hook f.name v.context d after) else []

theorem traced_calls (deadline : Nat) (fs : List (Filter σ)) (j : Journal σ) :
    Traced c v deadline fs j (calls c v deadline fs j)
      (c.scan v.setting deadline v.context v.change fs j).1
      (c.scan v.setting deadline v.context v.change fs j).2 := by
  induction fs generalizing j with
  | nil => exact .allowed j
  | cons f rest ih =>
    cases ran : (f.call v.context v.change).run v.setting (some deadline) j with
    | mk ending after =>
      simp only [scan, calls, verdict, ran]
      by_cases allows : c.decisionOf f.name v.change.hook ending = .allow
      · rw [allows, if_pos (Decision.isAllow_iff.mpr rfl), if_pos (Decision.isAllow_iff.mpr rfl)]
        exact .goesOn ran allows (ih _)
      · rw [if_neg (Decision.isAllow_iff.not.mpr allows),
          if_neg (Decision.isAllow_iff.not.mpr allows)]
        exact .stopped ran rfl allows

variable {c v}

-- Of the reports of a scan all but the last say that it went on.
theorem Traced.count_outcome {deadline : Nat} {fs : List (Filter σ)} {j last : Journal σ}
    {calls : List (Filter σ × Option Ending)} {d : Decision}
    (traced : Traced c v deadline fs j calls d last) {p : String → Bool}
    (silent : p "allowed" = false) :
    (calls.map (c.report v)).countP (fun r => p r.outcome) = if p d.outcome then 1 else 0 := by
  induction traced with
  | allowed j => simp [Decision.outcome, silent]
  | goesOn ran allows more ih =>
    rw [List.map_cons, List.countP_cons, ih, report, allows]
    simp [Decision.outcome, silent]
  | stopped ran decides stop => simp [report, decides]

theorem verdict_allow_iff {call : Filter σ × Option Ending} :
    c.verdict v call = .allow ↔ call.2 = some (.decided .allow) := by
  obtain ⟨f, ending⟩ := call
  unfold verdict decisionOf
  cases ending with
  | none => simp
  | some ending => cases ending <;> simp

/-- A scan allows exactly if it calls every filter and each of them allows. -/
theorem Traced.allow_iff {deadline : Nat} {fs : List (Filter σ)} {j last : Journal σ}
    {calls : List (Filter σ × Option Ending)} {d : Decision}
    (traced : Traced c v deadline fs j calls d last) :
    d = .allow ↔ calls = fs.map fun f => (f, some (.decided .allow)) := by
  induction traced with
  | allowed j => simp
  | goesOn ran allows more ih =>
    have ended := verdict_allow_iff.mp allows
    simp only at ended
    simp [ended, ih]
  | stopped ran decides stop =>
    constructor
    · intro allow
      exact absurd allow stop
    · intro same
      have ended := (Prod.mk.inj (List.cons.inj same).1).2
      exact decides.symm.trans (verdict_allow_iff.mpr ended)

theorem Traced.eq_of_steady {deadline deadline' : Nat} {fs : List (Filter σ)}
    {j j' last last' : Journal σ} {calls calls' : List (Filter σ × Option Ending)}
    {d d' : Decision} (traced : Traced c v deadline fs j calls d last)
    (traced' : Traced c v deadline' fs j' calls' d' last') (steady : ∀ f ∈ fs, f.Steady)
    (clock : deadline + j'.elapsed = deadline' + j.elapsed) : calls = calls' := by
  induction traced generalizing j' calls' with
  | allowed j =>
    cases traced'
    rfl
  | @goesOn f rest j after last ending calls d ran allows more ih =>
    cases traced' with
    | goesOn ran' allows' more' =>
      obtain ⟨rfl, later⟩ := steady f (by simp) ran ran' clock
      rw [ih more' fun f member => steady f (by simp [member])]
      simp only [record_elapsed]
      omega
    | stopped ran' decides' stop' =>
      obtain ⟨rfl, -⟩ := steady f (by simp) ran ran' clock
      exact absurd (decides'.symm.trans allows) stop'
  | @stopped f rest j after ending d ran decides stop =>
    cases traced' with
    | goesOn ran' allows' more' =>
      obtain ⟨rfl, -⟩ := steady f (by simp) ran ran' clock
      exact absurd (decides.symm.trans allows') stop
    | stopped ran' decides' stop' =>
      obtain ⟨rfl, -⟩ := steady f (by simp) ran ran' clock
      rfl

/-- A visit of an exempt project is allowed if it is sound. -/
def Excuses (c : Chain σ) (v : Visit) : Prop :=
  Sound v.context v.change ∧ v.context.projectId ∈ c.exemptProjects

instance (c : Chain σ) : DecidablePred c.Excuses := fun _ => inferInstanceAs (Decidable (_ ∧ _))

/-- The clock can show the end of the budget that a visit gets. -/
def Reaches (c : Chain σ) (v : Visit) : Prop := v.setting.uptime.Reaches c.hookTimeout

instance (c : Chain σ) : DecidablePred c.Reaches :=
  fun v => inferInstanceAs (Decidable (v.setting.uptime.Reaches c.hookTimeout))

/-- The four ways a visit can go, with the reports that it makes. -/
inductive Evaluated (c : Chain σ) (v : Visit) (j : Journal σ) :
    List Report → Ending → Journal σ → Prop where
  | malformed {e : Error} (broken : ¬ Sound v.context v.change) :
      Evaluated c v j [⟨v.change.hook, chainName, "unavailable"⟩]
        (.decided (.error chainName e.message))
        (record v.change.hook chainName v.context (.error chainName e.message) j)
  | exempt (excused : c.Excuses v) :
      Evaluated c v j [] (.decided .allow)
        ((j.note (.projectExempt v.change.hook v.context.projectId)).count
          (Metrics.countExempt v.change.hook))
  | scanned {calls : List (Filter σ × Option Ending)} {d : Decision} {last : Journal σ}
      (sound : Sound v.context v.change) (unlisted : v.context.projectId ∉ c.exemptProjects)
      (reached : c.Reaches v)
      (traced : Traced c v (j.elapsed + c.hookTimeout.nanos) c.filters j calls d last) :
      Evaluated c v j (calls.map (c.report v)) (.decided d) last
  | beyond (sound : Sound v.context v.change) (unlisted : v.context.projectId ∉ c.exemptProjects)
      (late : ¬ c.Reaches v) : Evaluated c v j [] (.crashed (some beyondClock)) j

def answer (c : Chain σ) (v : Visit) (j : Journal σ) : Ending × Journal σ :=
  c.evaluate v.setting v.context v.change j

/-- The calls of a visit that is neither malformed nor exempt, within the clock. -/
def callsOf (c : Chain σ) (v : Visit) (j : Journal σ) : List (Filter σ × Option Ending) :=
  calls c v (j.elapsed + c.hookTimeout.nanos) c.filters j

theorem traced_answer (sound : Sound v.context v.change)
    (unlisted : v.context.projectId ∉ c.exemptProjects) (reached : c.Reaches v) (j : Journal σ) :
    ∃ d, (c.answer v j).1 = .decided d ∧
      Traced c v (j.elapsed + c.hookTimeout.nanos) c.filters j (c.callsOf v j) d
        (c.answer v j).2 := by
  rw [answer, evaluate_asks c v.setting j sound unlisted reached]
  exact ⟨_, rfl, traced_calls c v _ _ j⟩

theorem evaluated_answer (c : Chain σ) (v : Visit) (j : Journal σ) :
    ∃ reports, Evaluated c v j reports (c.answer v j).1 (c.answer v j).2 := by
  by_cases sound : Sound v.context v.change
  · by_cases listed : v.context.projectId ∈ c.exemptProjects
    · rw [answer, evaluate_exempt c v.setting j sound listed]
      exact ⟨_, .exempt ⟨sound, listed⟩⟩
    by_cases reached : c.Reaches v
    · obtain ⟨d, decided, traced⟩ := traced_answer sound listed reached j
      rw [decided]
      exact ⟨_, .scanned sound listed reached traced⟩
    · rw [answer, evaluate_beyond c v.setting j sound listed reached]
      exact ⟨_, .beyond sound listed reached⟩
  · cases checked : validate v.context v.change with
    | ok u => exact absurd ((validate_ok_iff v.context v.change).mp checked) sound
    | error e =>
      rw [answer, evaluate_malformed c v.setting j checked]
      exact ⟨_, .malformed sound⟩

/-- Only a budget that the clock cannot show keeps a visit from a decision. -/
theorem exists_decision (reached : c.Reaches v) (j : Journal σ) :
    ∃ d, (c.answer v j).1 = .decided d := by
  obtain ⟨reports, evaluated⟩ := evaluated_answer c v j
  generalize c.answer v j = r at evaluated
  obtain ⟨ending, last⟩ := r
  cases evaluated with
  | malformed | exempt | scanned => exact ⟨_, rfl⟩
  | beyond _ _ late => exact absurd reached late

/-- A visit is allowed exactly if it is sound and its project is exempt or every filter, asked in
turn within the clock, allows it. -/
theorem answer_allow_iff (c : Chain σ) (v : Visit) (j : Journal σ) :
    (c.answer v j).1 = .decided .allow ↔
      Sound v.context v.change ∧ (v.context.projectId ∈ c.exemptProjects ∨
        c.Reaches v ∧
          c.callsOf v j = c.filters.map fun f => (f, some (.decided .allow))) := by
  have traced := fun sound unlisted reached =>
    @traced_answer σ c v sound unlisted reached j
  obtain ⟨reports, evaluated⟩ := evaluated_answer c v j
  generalize c.answer v j = answer at evaluated traced
  obtain ⟨ending, last⟩ := answer
  cases evaluated with
  | malformed broken =>
    constructor
    · nofun
    · exact fun allowed => absurd allowed.1 broken
  | exempt excused => exact iff_of_true rfl ⟨excused.1, .inl excused.2⟩
  | scanned sound unlisted reached _ =>
    obtain ⟨_, ⟨⟩, traced⟩ := traced sound unlisted reached
    rw [Ending.decided.injEq, traced.allow_iff]
    simp [sound, unlisted, reached]
  | beyond sound unlisted late =>
    constructor
    · nofun
    · rintro ⟨_, listed | ⟨reached, _⟩⟩
      · exact absurd listed unlisted
      · exact absurd reached late

section Evaluated

variable {j last : Journal σ} {reports : List Report} {ending : Ending}
variable (evaluated : Evaluated c v j reports ending last)

include evaluated

theorem Evaluated.count_outcome {p : String → Bool} (silent : p "allowed" = false) :
    reports.countP (fun r => p r.outcome) =
      if ending.decision?.any (p ·.outcome) then 1 else 0 := by
  cases evaluated with
  | malformed broken => exact List.countP_singleton
  | exempt excused => simp [Ending.decision?, Decision.outcome, silent]
  | scanned sound unlisted reached traced => exact traced.count_outcome silent
  | beyond sound unlisted late => rfl

theorem Evaluated.hook {r : Report} (member : r ∈ reports) : r.hook = v.change.hook := by
  cases evaluated with
  | malformed broken => rw [List.mem_singleton.mp member]
  | exempt excused => cases member
  | scanned sound unlisted reached traced =>
    obtain ⟨call, -, same⟩ := List.mem_map.mp member
    rw [← same]
    rfl
  | beyond sound unlisted late => cases member

/-- Of the reports that block, a visit makes the one that it comes to and no other. -/
theorem Evaluated.count_hook (hook : Hook) {p : String → Bool} (silent : p "allowed" = false) :
    reports.countP (fun r => r.hook = hook ∧ p r.outcome) =
      if v.change.hook = hook ∧ ending.decision?.any (p ·.outcome) then 1 else 0 := by
  by_cases here : v.change.hook = hook
  · have all : ∀ r ∈ reports, decide (r.hook = hook ∧ p r.outcome) = true ↔ p r.outcome = true :=
      fun r member => by simp [evaluated.hook member, here]
    rw [List.countP_congr all, evaluated.count_outcome silent]
    simp [here]
  · have none : ∀ r ∈ reports, ¬ decide (r.hook = hook ∧ p r.outcome) = true :=
      fun r member => by simp [evaluated.hook member, here]
    rw [List.countP_eq_zero.mpr none, if_neg fun both => here both.1]

end Evaluated

/-! Runs. -/

/-- One visit after another. -/
def run (c : Chain σ) : List Visit → Journal σ → List Ending × Journal σ
  | [], j => ([], j)
  | v :: rest, j =>
      let (ending, j) := c.answer v j
      let (endings, j) := run c rest j
      (ending :: endings, j)

/-- The reports that a visit may make. -/
def Tells (c : Chain σ) (v : Visit) (reports : List Report) : Prop :=
  ∃ j ending last, Evaluated c v j reports ending last

theorem tells_unique (steady : ∀ f ∈ c.filters, f.Steady) : Relator.RightUnique c.Tells := by
  rintro v reports reports' ⟨j, ending, last, evaluated⟩ ⟨j', ending', last', evaluated'⟩
  cases evaluated with
  | malformed broken =>
    cases evaluated' with
    | malformed => rfl
    | exempt excused => exact absurd excused.1 broken
    | scanned sound => exact absurd sound broken
    | beyond sound => exact absurd sound broken
  | exempt excused =>
    cases evaluated' with
    | malformed broken => exact absurd excused.1 broken
    | exempt => rfl
    | scanned _ unlisted => exact absurd excused.2 unlisted
    | beyond _ unlisted => exact absurd excused.2 unlisted
  | scanned sound unlisted reached traced =>
    cases evaluated' with
    | malformed broken => exact absurd sound broken
    | exempt excused => exact absurd excused.2 unlisted
    | scanned _ _ _ traced' =>
      rw [traced.eq_of_steady traced' steady (by omega)]
    | beyond _ _ late => exact absurd reached late
  | beyond sound unlisted late =>
    cases evaluated' with
    | malformed broken => exact absurd sound broken
    | exempt excused => exact absurd excused.2 unlisted
    | scanned _ _ reached => exact absurd reached late
    | beyond => rfl

/-- A visit that reaches the filters reports its calls, if the clock can show its budget. -/
theorem Evaluated.traced_or_beyond {v : Visit} {j last : Journal σ} {reports : List Report}
    {ending : Ending} (evaluated : Evaluated c v j reports ending last)
    (sound : Sound v.context v.change) (unlisted : v.context.projectId ∉ c.exemptProjects) :
    (c.Reaches v → ∃ calls d, ending = .decided d ∧
      Traced c v (j.elapsed + c.hookTimeout.nanos) c.filters j calls d last ∧
      reports = calls.map (c.report v)) ∧
    (¬ c.Reaches v → ending = .crashed (some beyondClock) ∧ last = j ∧ reports = []) := by
  cases evaluated with
  | malformed broken => exact absurd sound broken
  | exempt excused => exact absurd excused.2 unlisted
  | scanned _ _ reached traced =>
    exact ⟨fun _ => ⟨_, _, rfl, traced, rfl⟩, fun late => absurd reached late⟩
  | beyond _ _ late => exact ⟨fun reached => absurd reached late, fun _ => ⟨rfl, rfl, rfl⟩⟩

theorem length_run (visits : List Visit) (j : Journal σ) :
    (c.run visits j).1.length = visits.length := by
  induction visits generalizing j with
  | nil => rfl
  | cons v rest ih => exact congrArg Nat.succ (ih _)

/-- No filter that the visit calls is cut off. -/
def Finishes (c : Chain σ) (v : Visit) (j : Journal σ) : Prop :=
  Sound v.context v.change → v.context.projectId ∉ c.exemptProjects → c.Reaches v →
    ∀ call ∈ c.callsOf v j, call.2 ≠ none

instance (c : Chain σ) (v : Visit) (j : Journal σ) : Decidable (c.Finishes v j) :=
  inferInstanceAs (Decidable (Sound v.context v.change → _ → _ → ∀ call ∈ c.callsOf v j, _))

/-- None that any of the visits calls, one visit after another. -/
def FinishAll (c : Chain σ) : List Visit → Journal σ → Prop
  | [], _ => True
  | v :: rest, j => c.Finishes v j ∧ FinishAll c rest (c.answer v j).2

instance decidableFinishAll (c : Chain σ) :
    (visits : List Visit) → (j : Journal σ) → Decidable (c.FinishAll visits j)
  | [], _ => isTrue trivial
  | v :: rest, j =>
      have := decidableFinishAll c rest (c.answer v j).2
      inferInstanceAs (Decidable (c.Finishes v j ∧ _))

end Chain

end Admission
