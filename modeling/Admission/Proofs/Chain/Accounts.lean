import Admission.Proofs.Chain.Build
import Admission.Proofs.Chain.Trace
import Admission.Proofs.Delegate.Attempt
import Admission.Proofs.Metrics.Series
/-!
What a chain counts and logs. Its books are its two counters and the decisions in its log; only the
chain itself writes to them, one entry for each report. The main statement adds up the books of
whole runs.
-/

namespace Admission

namespace Decision

theorem outcome_denied_iff {d : Decision} : d.outcome = "denied" ↔ d.kind = .deny := by
  cases d <;> simp [outcome, kind]

theorem outcome_unavailable_iff {d : Decision} : d.outcome = "unavailable" ↔ d.kind = .error := by
  cases d <;> simp [outcome, kind]

end Decision

/-- The kind of the decision, if there is one. -/
def Ending.kind? (e : Ending) : Option Decision.Kind := e.decision?.map Decision.kind

namespace Event

/-- The event tells of a decision: its message and its fields say so. -/
def Reports (r : Report) (e : Event) : Prop :=
  e.message ∈ ["filter allowed", "lease operation denied by policy",
    "policy could not be evaluated"] ∧
  ("hook", .text r.hook.label) ∈ e.fields ∧ ("filter", .text r.filter) ∈ e.fields ∧
  ("outcome", .text r.outcome) ∈ e.fields

def report? : Event → Option Report
  | .allowed hook filter _ => some ⟨hook, filter, "allowed"⟩
  | .denied hook filter _ _ => some ⟨hook, filter, "denied"⟩
  | .unavailable hook filter _ _ => some ⟨hook, filter, "unavailable"⟩
  | _ => none

theorem reports_iff {r : Report} {e : Event} : e.Reports r ↔ e.report? = some r := by
  obtain ⟨hook, filter, outcome⟩ := r
  cases e <;>
    simp [Reports, report?, message, fields, decisionFields, Hook.label_inj, eq_comm]

instance (r : Report) : DecidablePred (Reports r) := fun _ => decidable_of_iff _ reports_iff.symm

end Event

/-! Books. -/

def Report.labels (r : Report) : List Metrics.Label :=
  Metrics.decisionLabels r.hook r.filter r.outcome

section Reports

open Metrics (Counter)

variable (rs : List Report)

theorem get_reports (r : Report) : (Counter.incAll [] (rs.map Report.labels)).get r.labels =
    .ofNat (rs.countP (· = r)) := by
  have same (r' : Report) :
      Metrics.Labels.ofList r.labels = Metrics.Labels.ofList r'.labels ↔ r' = r := by
    rw [Report.labels, Report.labels, Metrics.decisionLabels_inj, eq_comm (a := r'), Report.ext_iff]
  rw [Counter.get_incAll, List.countP_map]
  simp only [Function.comp_def, same]
  exact UInt64.zero_add _

theorem total_reports (hook : Hook) (outcome : String) :
    (Counter.incAll [] (rs.map Report.labels)).total
        [("hook", hook.label), ("outcome", outcome)] =
      .ofNat (rs.countP fun r => r.hook = hook ∧ r.outcome = outcome) := by
  have carried (r : Report) : [("hook", hook.label), ("outcome", outcome)] ⊆ r.labels ↔
      r.hook = hook ∧ r.outcome = outcome := by
    rw [Report.labels, Metrics.subset_decisionLabels_iff, eq_comm, eq_comm (a := outcome)]
  rw [Counter.total_incAll, List.countP_map]
  simp only [Function.comp_def, carried]
  exact UInt64.zero_add _

end Reports

/-- What the chain writes for itself. -/
structure Books where
  decisions : Metrics.Counter
  exempt : Metrics.Counter
  reports : List Report

namespace Books

def enter (b : Books) (r : Report) : Books :=
  { b with decisions := b.decisions.inc r.labels, reports := b.reports ++ [r] }

def excuse (b : Books) (hook : Hook) : Books :=
  { b with exempt := b.exempt.inc (Metrics.hookLabels hook) }

theorem enter_all (rs : List Report) (b : Books) :
    rs.foldl enter b =
      ⟨b.decisions.incAll (rs.map Report.labels), b.exempt, b.reports ++ rs⟩ := by
  induction rs generalizing b with
  | nil => simp
  | cons r rs ih => simp [ih, enter]

end Books

variable {σ : Type}

def Journal.books (j : Journal σ) : Books :=
  ⟨j.metrics.decisions, j.metrics.exempt, j.events.filterMap Event.report?⟩

/-- Nothing counted and nothing logged yet. -/
def Journal.fresh (j : Journal σ) : Journal σ := { j with metrics := {}, events := [] }

/-- A filter that leaves the books to the chain. It may count and log otherwise. -/
def Filter.Reserved (f : Filter σ) : Prop :=
  ∀ ctx change, (f.call ctx change).Keeps Journal.books

theorem Probe.filter_reserved (p : Probe) : p.filter.Reserved := by
  intro ctx change
  refine .bind (Task.keeps_update fun _ => rfl) fun _ => ?_
  cases p.course ctx change with
  | ends after ending =>
    exact .bind (Task.keeps_wait (fun _ _ => rfl) after) fun _ => Task.keeps_pure ending
  | never => exact Task.keeps_never fun _ _ => rfl

theorem LengthLimit.keeps_filter {γ : Type} {view : Journal σ → γ}
    (unsaid : ∀ j project, view (j.note (.lengthExempt filterName project)) = view j)
    (l : LengthLimit) (ctx : Context) (change : Change) :
    (l.filter.call ctx change : Task σ Ending).Keeps view := by
  have checks (current : Option Lease) (lease : Lease) :
      (l.check ctx current lease : Task σ Ending).Keeps view := by
    unfold check
    split
    · exact .bind (Task.keeps_update fun j => unsaid j _) fun _ =>
        .bind Task.keeps_setting fun _ => Task.keeps_pure _
    · exact .bind Task.keeps_setting fun _ => Task.keeps_pure _
  cases change with
  | create lease => exact checks none lease
  | update current lease => exact checks (some current) lease
  | onEnd current => exact Task.keeps_pure _

theorem aside_books : Delegate.Aside (Journal.books : Journal σ → Books) where
  elapsed _ _ := rfl
  exchanges _ _ := rfl
  calls _ _ _ := rfl
  durations _ _ _ := rfl
  retries j _ _ _ _ _ := by simp [Journal.books, Journal.note, Event.report?]
  skips j _ := by simp [Journal.books, Journal.note, Event.report?]

namespace Chain

/-- The filters of this library leave the books to the chain. -/
theorem reserved_of_ofConfig {config : Config} {c : Chain σ} {events : List Event}
    (built : ofConfig config Registry.builtin = .ok (c, events)) : ∀ f ∈ c.filters, f.Reserved := by
  intro f member
  obtain ⟨name, made⟩ := (of_ofConfig built).2 f member
  rw [← Registry.builtinWith_sendAttempt] at made
  cases Registry.built_of_build made with
  | delegate => exact Delegate.keeps_filter aside_books _
  | lengthLimit =>
    exact LengthLimit.keeps_filter
      (fun j _ => by simp [Journal.books, Journal.note, Event.report?]) _

theorem books_record (hook : Hook) (name : String) (ctx : Context) (d : Decision)
    (j : Journal σ) :
    (record hook name ctx d j).books = j.books.enter ⟨hook, name, d.outcome⟩ := by
  cases d <;>
    simp [Journal.books, record, Journal.note, Journal.count, Metrics.countDecision, decisionEvent,
      Event.report?, Books.enter, Report.labels, Decision.outcome]

variable {c : Chain σ} {v : Visit}

theorem Traced.books {deadline : Nat} {fs : List (Filter σ)} {j last : Journal σ}
    {calls : List (Filter σ × Option Ending)} {d : Decision}
    (traced : Traced c v deadline fs j calls d last) (reserved : ∀ f ∈ fs, f.Reserved) :
    last.books = (calls.map (c.report v)).foldl Books.enter j.books := by
  induction traced with
  | allowed j => rfl
  | @goesOn f rest j after last ending calls d ran allows more ih =>
    have kept := reserved f (by simp) v.context v.change v.setting (some deadline) j
    rw [ran] at kept
    rw [ih fun f member => reserved f (by simp [member]), books_record, kept, List.map_cons,
      List.foldl_cons, report, allows]
  | @stopped f rest j after ending d ran decides stop =>
    have kept := reserved f (by simp) v.context v.change v.setting (some deadline) j
    rw [ran] at kept
    rw [books_record, kept, List.map_singleton, List.foldl_cons, report, decides, List.foldl_nil]

theorem Evaluated.books {j last : Journal σ} {reports : List Report} {ending : Ending}
    (evaluated : Evaluated c v j reports ending last) (reserved : ∀ f ∈ c.filters, f.Reserved) :
    last.books = reports.foldl Books.enter
      (if c.Excuses v then j.books.excuse v.change.hook else j.books) := by
  cases evaluated with
  | malformed broken =>
    rw [if_neg fun excused : c.Excuses v => broken excused.1, books_record]
    rfl
  | exempt excused =>
    rw [if_pos excused]
    simp [Journal.books, Journal.note, Journal.count, Metrics.countExempt, Books.excuse,
      Event.report?]
  | scanned sound unlisted reached traced =>
    rw [if_neg fun excused : c.Excuses v => unlisted excused.2]
    exact traced.books reserved
  | beyond sound unlisted late =>
    rw [if_neg fun excused : c.Excuses v => unlisted excused.2]
    rfl

theorem run_books (reserved : ∀ f ∈ c.filters, f.Reserved) (visits : List Visit) (j : Journal σ) :
    ∃ told, List.Forall₂ c.Tells visits told ∧
      (c.run visits j).2.books =
        ⟨j.books.decisions.incAll (told.flatten.map Report.labels),
          j.books.exempt.incAll
            ((visits.filter c.Excuses).map fun v => Metrics.hookLabels v.change.hook),
          j.books.reports ++ told.flatten⟩ ∧
      ∀ hook (p : String → Bool), p "allowed" = false →
        told.flatten.countP (fun r => r.hook = hook ∧ p r.outcome) =
          (visits.zip (c.run visits j).1).countP
            fun a => a.1.change.hook = hook ∧ a.2.decision?.any (p ·.outcome) := by
  induction visits generalizing j with
  | nil => exact ⟨[], .nil, by simp [run], by simp [run]⟩
  | cons v rest ih =>
    obtain ⟨first, evaluated⟩ := evaluated_answer c v j
    obtain ⟨later, tell, books, counts⟩ := ih (c.answer v j).2
    refine ⟨first :: later, .cons ⟨_, _, _, evaluated⟩ tell, ?_, ?_⟩
    · rw [run, books, evaluated.books reserved, Books.enter_all]
      by_cases excused : c.Excuses v <;>
        simp [excused, Books.excuse, Metrics.Counter.incAll_append]
    · intro hook p silent
      rw [List.flatten_cons, List.countP_append, evaluated.count_hook hook silent,
        counts hook p silent, run]
      simp only [List.zip_cons_cons, List.countP_cons, decide_eq_true_eq]
      exact Nat.add_comm _ _

/-! Accounts. -/

/-- The counters agree with the log, with the visits and with what these came to. -/
structure Accounts (c : Chain σ) (visits : List Visit) (endings : List Ending)
    (j : Journal σ) : Prop where
  answered : endings.length = visits.length
  logged : ∀ hook filter outcome,
    j.metrics.decisions.get (Metrics.decisionLabels hook filter outcome) =
      .ofNat (j.events.countP (Event.Reports ⟨hook, filter, outcome⟩))
  exempt : ∀ hook, j.metrics.exempt.get (Metrics.hookLabels hook) =
    .ofNat (visits.countP fun v => v.change.hook = hook ∧ c.Excuses v)
  denied : ∀ hook, j.metrics.decisions.total [("hook", hook.label), ("outcome", "denied")] =
    .ofNat ((visits.zip endings).countP fun a => a.1.change.hook = hook ∧ a.2.kind? = some .deny)
  unavailable : ∀ hook,
    j.metrics.decisions.total [("hook", hook.label), ("outcome", "unavailable")] =
      .ofNat ((visits.zip endings).countP fun a =>
        a.1.change.hook = hook ∧ a.2.kind? = some .error)
  noOtherDecision : ∀ key ∈ j.metrics.decisions.keys, ∃ hook filter outcome,
    key = Metrics.Labels.ofList (Metrics.decisionLabels hook filter outcome) ∧
      ∃ e ∈ j.events, e.Reports ⟨hook, filter, outcome⟩
  noOtherExempt : ∀ key ∈ j.metrics.exempt.keys, ∃ v ∈ visits, c.Excuses v ∧
    key = Metrics.Labels.ofList (Metrics.hookLabels v.change.hook)

theorem Accounts.of_run (reserved : ∀ f ∈ c.filters, f.Reserved) (visits : List Visit)
    (j : Journal σ) : c.Accounts visits (c.run visits j.fresh).1 (c.run visits j.fresh).2 := by
  obtain ⟨told, -, books, counts⟩ := run_books reserved visits j.fresh
  have decisions : (c.run visits j.fresh).2.metrics.decisions =
      Metrics.Counter.incAll [] (told.flatten.map Report.labels) := congrArg Books.decisions books
  have exempt : (c.run visits j.fresh).2.metrics.exempt = Metrics.Counter.incAll []
      ((visits.filter c.Excuses).map fun v => Metrics.hookLabels v.change.hook) :=
    congrArg Books.exempt books
  have logged : (c.run visits j.fresh).2.events.filterMap Event.report? = told.flatten :=
    congrArg Books.reports books
  have blocked (outcome : String) (k : Decision.Kind)
      (named : ∀ d : Decision, d.outcome = outcome ↔ d.kind = k)
      (silent : decide ("allowed" = outcome) = false) (hook : Hook) :
      (c.run visits j.fresh).2.metrics.decisions.total
          [("hook", hook.label), ("outcome", outcome)] =
        .ofNat ((visits.zip (c.run visits j.fresh).1).countP fun a =>
          a.1.change.hook = hook ∧ a.2.kind? = some k) := by
    have same (e : Ending) :
        (e.decision?.any fun d => decide (d.outcome = outcome)) = true ↔ e.kind? = some k := by
      cases e <;> simp [Ending.decision?, Ending.kind?, named]
    have counted := counts hook (· = outcome) silent
    rw [decisions, total_reports]
    simpa [same] using congrArg UInt64.ofNat counted
  refine ⟨length_run visits j.fresh, ?logged, ?exempt,
    blocked "denied" .deny (fun _ => Decision.outcome_denied_iff) rfl,
    blocked "unavailable" .error (fun _ => Decision.outcome_unavailable_iff) rfl,
    ?noOtherDecision, ?noOtherExempt⟩
  case logged =>
    intro hook filter outcome
    rw [decisions, ← logged]
    refine (get_reports _ ⟨hook, filter, outcome⟩).trans (congrArg _ ?_)
    rw [List.countP_filterMap]
    refine List.countP_congr fun e _ => ?_
    rw [decide_eq_true_iff, Event.reports_iff]
    cases e.report? <;> simp
  case exempt =>
    intro hook
    rw [exempt, Metrics.Counter.get_incAll, List.countP_map, List.countP_filter]
    refine (UInt64.zero_add _).trans (congrArg _ (List.countP_congr fun v _ => ?_))
    simp [Metrics.hookLabels_inj, eq_comm (a := hook)]
  case noOtherDecision =>
    intro key member
    rw [decisions, Metrics.Counter.mem_keys_incAll] at member
    obtain ⟨labels, counted, same⟩ | none := member
    · obtain ⟨r, made, rfl⟩ := List.mem_map.mp counted
      obtain ⟨e, member, tells⟩ := List.mem_filterMap.mp (logged ▸ made)
      exact ⟨r.hook, r.filter, r.outcome, same, e, member, Event.reports_iff.mpr tells⟩
    · cases none
  case noOtherExempt =>
    intro key member
    rw [exempt, Metrics.Counter.mem_keys_incAll] at member
    obtain ⟨labels, counted, same⟩ | none := member
    · obtain ⟨v, excused, rfl⟩ := List.mem_map.mp counted
      obtain ⟨member, excused⟩ := List.mem_filter.mp excused
      exact ⟨v, member, of_decide_eq_true excused, same⟩
    · cases none

theorem run_perm (reserved : ∀ f ∈ c.filters, f.Reserved) (steady : ∀ f ∈ c.filters, f.Steady)
    {visits visits' : List Visit} (perm : visits'.Perm visits) (j j' : Journal σ) :
    (c.run visits' j'.fresh).2.metrics.decisions = (c.run visits j.fresh).2.metrics.decisions ∧
      (c.run visits' j'.fresh).2.metrics.exempt = (c.run visits j.fresh).2.metrics.exempt := by
  obtain ⟨told, tell, books, -⟩ := run_books reserved visits j.fresh
  obtain ⟨told', tell', books', -⟩ := run_books reserved visits' j'.fresh
  obtain ⟨again, retell, same⟩ := List.perm_comp_forall₂ perm tell
  cases List.right_unique_forall₂' (tells_unique steady) tell' retell
  constructor
  · refine (congrArg Books.decisions books').trans (.trans ?_ (congrArg Books.decisions books).symm)
    exact Metrics.Counter.incAll_perm (same.flatten.map _)
  · refine (congrArg Books.exempt books').trans (.trans ?_ (congrArg Books.exempt books).symm)
    exact Metrics.Counter.incAll_perm ((perm.filter _).map _)

/-- The counters of every run agree with its log, with the visits and with the decisions. Each
visit counts at most one decision that blocks, and one decision for each filter that it calls; where
the clock cannot show its budget, it calls and counts nothing. For filters that only look at the
context and the change, the order of the visits does not matter. -/
theorem run_accounts (reserved : ∀ f ∈ c.filters, f.Reserved) (visits : List Visit)
    (j : Journal σ) :
    c.Accounts visits (c.run visits j.fresh).1 (c.run visits j.fresh).2 ∧
    (∀ (v : Visit) (j : Journal σ), ∃ reports : List Report,
      (c.answer v j).2.metrics.decisions =
          j.metrics.decisions.incAll (reports.map Report.labels) ∧
        reports.countP (fun r => r.outcome ≠ "allowed") ≤ 1 ∧
        (Sound v.context v.change → v.context.projectId ∉ c.exemptProjects →
          (c.answer v j).2.metrics.exempt = j.metrics.exempt ∧
          (c.Reaches v → ∃ calls d, (c.answer v j).1 = .decided d ∧
            Traced c v (j.elapsed + c.hookTimeout.nanos) c.filters j calls d (c.answer v j).2 ∧
            reports = calls.map (c.report v)) ∧
          (¬ c.Reaches v → (c.answer v j).1 = .crashed (some beyondClock) ∧
            (c.answer v j).2 = j ∧ reports = []))) ∧
    ∀ (visits' : List Visit) (j' : Journal σ), visits'.Perm visits → (∀ f ∈ c.filters, f.Steady) →
      (c.run visits' j'.fresh).2.metrics.decisions = (c.run visits j.fresh).2.metrics.decisions ∧
      (c.run visits' j'.fresh).2.metrics.exempt = (c.run visits j.fresh).2.metrics.exempt := by
  refine ⟨.of_run reserved visits j, fun v j => ?_,
    fun visits' j' perm steady => run_perm reserved steady perm j j'⟩
  obtain ⟨reports, evaluated⟩ := evaluated_answer c v j
  have books := evaluated.books reserved
  rw [Books.enter_all] at books
  refine ⟨reports, ?counted, ?single, ?asked⟩
  case counted =>
    refine (congrArg Books.decisions books).trans ?_
    split <;> rfl
  case single =>
    have single := evaluated.count_outcome (p := (· ≠ "allowed")) rfl
    rw [single]
    split <;> omega
  case asked =>
    intro sound unlisted
    refine ⟨(congrArg Books.exempt books).trans ?_, evaluated.traced_or_beyond sound unlisted⟩
    rw [if_neg fun excused : c.Excuses v => unlisted excused.2]
    rfl

/-- One filter denies some projects, and the other crashes or is cut off. -/
theorem run_accounts_two :
    let quota : Probe := ⟨"Quota", fun ctx _ =>
      .ends 5 (.decided (if ctx.projectId = "full" then .deny "Quota" "no room" else .allow))⟩
    let stuck : Probe := ⟨"Stuck", fun _ change =>
      if change.hook = .onEnd then .never else .ends 3 (.crashed none)⟩
    let c : Chain (List Call) := ⟨[quota.filter, stuck.filter], ["free"], .ofMillis 1⟩
    let lease : Lease := ⟨none, none, ⟨0, 0, 0⟩, ⟨1, 0, 0⟩, []⟩
    let visit (project : String) (change : Change) : Visit :=
      ⟨⟨⟨0, 0, 0⟩, [], Service.absent, .zero⟩, ⟨"u", project, "a", "r"⟩, change⟩
    let visits := [visit "full" (.create lease), visit "free" (.create lease),
      visit "p" (.create lease), visit "p" (.onEnd lease), visit " " (.onEnd lease)]
    let j : Journal (List Call) := { memory := [] }
    let r := c.run visits j.fresh
    (∀ f ∈ c.filters, f.Reserved) ∧ (∀ f ∈ c.filters, f.Steady) ∧
      c.Accounts visits r.1 r.2 ∧
      r.1.map Ending.kind? =
        [some .deny, some .allow, some .error, some .error, some .error] ∧
      r.2.metrics.decisions.total [("hook", "on_end"), ("outcome", "unavailable")] = 2 ∧
      (c.run visits.reverse j.fresh).2.metrics.decisions = r.2.metrics.decisions := by
  intro quota stuck c lease visit visits j r
  have reserved : ∀ f ∈ c.filters, f.Reserved := by
    intro f member
    rcases List.mem_pair.mp member with rfl | rfl
    · exact quota.filter_reserved
    · exact stuck.filter_reserved
  have steady : ∀ f ∈ c.filters, f.Steady := by
    intro f member
    rcases List.mem_pair.mp member with rfl | rfl
    · exact quota.filter_steady
    · exact stuck.filter_steady
  obtain ⟨accounts, -, anyOrder⟩ := run_accounts reserved visits j
  exact ⟨reserved, steady, accounts, by decide +kernel, by decide +kernel,
    (anyOrder visits.reverse j visits.reverse_perm steady).1⟩

end Chain

end Admission

