import Admission.Check
import Admission.Proofs.Chain.Assembly
import Admission.Proofs.Chain.Trace
import Admission.Proofs.Config.Validation
import Admission.Proofs.Decision
/-!
What the check tells about a request. If all that a decision needs is there, the decision is
printed and told by the status; if anything is missing, nothing is printed, nobody is asked, and
the status is that of no decision.
-/

namespace Admission

namespace Request

/-- The snapshots that the hook needs are there. -/
inductive Picks (r : Request) : Change → Prop
  | create {lease : Lease} : r.hook = .create → r.lease = some lease → Picks r (.create lease)
  | update {current lease : Lease} : r.hook = .update → r.currentLease = some current →
      r.lease = some lease → Picks r (.update current lease)
  | onEnd {current : Lease} : r.hook = .onEnd → r.currentLease = some current →
      Picks r (.onEnd current)

theorem change_eq_ok_iff {r : Request} {c : Change} : r.change = .ok c ↔ r.Picks c := by
  obtain ⟨hook, ctx, lease, current⟩ := r
  constructor
  · intro there
    cases hook with
    | create =>
      cases lease with
      | none => cases there
      | some lease =>
        cases there
        exact .create rfl rfl
    | update =>
      cases current with
      | none => cases there
      | some current =>
        cases lease with
        | none => cases there
        | some lease =>
          cases there
          exact .update rfl rfl rfl
    | onEnd =>
      cases current with
      | none => cases there
      | some current =>
        cases there
        exact .onEnd rfl rfl
  · rintro (⟨rfl, rfl⟩ | ⟨rfl, rfl, rfl⟩ | ⟨rfl, rfl⟩) <;> rfl

end Request

namespace Check

/-- What a decision is made from. -/
structure Setup where
  config : Config
  chain : Chain Unit
  events : List Event
  request : Request
  change : Change

namespace Setup

def visit (p : Setup) (s : Setting) : Visit := ⟨s, p.request.context, p.change⟩

def start (p : Setup) : Journal Unit := { events := p.events, memory := () }

/-- The decision and what was done for it. -/
def answer (p : Setup) (s : Setting) : Ending × Journal Unit :=
  p.chain.answer (p.visit s) p.start

end Setup

variable (configPath requestPath : String) (files : String → Text.File)

/-- The configuration is read and accepted, its chain is built, and the request is read and has
what its hook needs. -/
structure Ready (p : Setup) : Prop where
  loaded : Config.loadFile configPath (files configPath) = .ok p.config
  valid : p.config.validate = .ok ()
  built : Chain.ofConfig p.config Registry.builtin = .ok (p.chain, p.events)
  filters : List.Forall₂ (fun name f => Registry.builtin.build name p.config.filters = .ok f)
    p.config.enforcement.enabledFilters p.chain.filters
  parsed : ∃ text, files requestPath = .ok text ∧ Request.parse text = .ok p.request
  picked : p.request.Picks p.change

/-- Something that a decision needs is not there. -/
inductive Unready : Prop
  | load {fault : Config.Fault} : Config.loadFile configPath (files configPath) = .error fault →
      Unready
  | build {config : Config} {name : String} {error : Error} :
      Config.loadFile configPath (files configPath) = .ok config →
      name ∈ config.enforcement.enabledFilters →
      (Registry.builtin : Registry Unit).build name config.filters = .error error → Unready
  | read {fault : Text.FileFault} : files requestPath = .error fault → Unready
  | parse {text : String} {error : Error} : files requestPath = .ok text →
      Request.parse text = .error error → Unready
  | snapshot {text : String} {request : Request} : files requestPath = .ok text →
      Request.parse text = .ok request → (∀ change, ¬ request.Picks change) → Unready

/-- A report of the decision that was made from `p`. -/
structure Answered (s : Setting) (p : Setup) (report : Report) : Prop where
  allow : report.status = 0 ↔ (p.answer s).1 = .decided .allow
  deny : report.status = 1 ↔ ∃ filter reason, (p.answer s).1 = .decided (.deny filter reason)
  error : report.status = 2 ↔ ∃ filter reason, (p.answer s).1 = .decided (.error filter reason)
  allowed : (p.answer s).1 = .decided .allow ↔ Chain.Sound p.request.context p.change ∧
    (p.request.context.projectId ∈ p.config.enforcement.exemptProjects ∨
      p.chain.callsOf (p.visit s) p.start =
        p.chain.filters.map fun f => (f, some (.decided .allow)))
  stdout : ∃ d, (p.answer s).1 = .decided d ∧ Decision.decoder.run report.stdout = .ok d
  exchanges : report.exchanges = (p.answer s).2.exchanges

/-- Nothing was decided and nobody was asked. -/
structure Undecided (report : Report) : Prop where
  status : report.status = 3
  stdout : report.stdout = ""
  exchanges : report.exchanges = []

variable {configPath requestPath files} {s : Setting}

theorem decide_of_ready {p : Setup} (ready : Ready configPath requestPath files p) :
    decide s configPath requestPath files = .ok (p.answer s) := by
  obtain ⟨text, read, parsed⟩ := ready.parsed
  have change := Request.change_eq_ok_iff.mpr ready.picked
  simp only [decide, ready.loaded, ready.built, read, parsed, change, bind, Except.bind,
    Except.mapError]
  rfl

theorem ready_of_decide {r : Ending × Journal Unit}
    (decided : decide s configPath requestPath files = .ok r) :
    ∃ p, Ready configPath requestPath files p := by
  obtain ⟨config, loaded, decided⟩ := of_bind_ok decided
  obtain ⟨⟨chain, events⟩, built, decided⟩ := of_bind_ok decided
  obtain ⟨text, read, decided⟩ := of_bind_ok decided
  obtain ⟨request, parsed, decided⟩ := of_bind_ok decided
  obtain ⟨change, picked, _⟩ := of_bind_ok decided
  have loaded := of_mapError_ok loaded
  obtain ⟨filters, each, rfl, _⟩ := Chain.ofConfig_ok_iff.mp built
  exact ⟨⟨config, _, events, request, change⟩, loaded, Config.validate_of_loadFile loaded, built,
    Chain.buildAll_ok_iff.mp each, ⟨text, of_mapError_ok read, parsed⟩,
    Request.change_eq_ok_iff.mp picked⟩

theorem unready_of_decide {e : Error}
    (failed : decide s configPath requestPath files = .error e) :
    Unready configPath requestPath files := by
  cases loaded : Config.loadFile configPath (files configPath) with
  | error fault => exact .load loaded
  | ok config =>
    cases built : (Chain.ofConfig config Registry.builtin : Except Error (Chain Unit × _)) with
    | error error =>
      obtain ⟨before, name, after, split, _, stuck⟩ :=
        Chain.buildAll_error_iff.mp (Chain.ofConfig_error.mp built)
      exact .build loaded (by simp [split]) stuck
    | ok chain =>
      cases read : files requestPath with
      | error fault => exact .read read
      | ok text =>
        cases parsed : Request.parse text with
        | error error => exact .parse read parsed
        | ok request =>
          apply Unready.snapshot read parsed
          intro change picked
          have change := Request.change_eq_ok_iff.mpr picked
          simp [decide, loaded, built, read, parsed, change, bind, Except.bind, Except.mapError]
            at failed

theorem Ready.not_unready {p : Setup} (ready : Ready configPath requestPath files p) :
    ¬ Unready configPath requestPath files := by
  obtain ⟨text, read, parsed⟩ := ready.parsed
  intro unready
  cases unready with
  | load failed => cases ready.loaded.symm.trans failed
  | build loaded enabled failed =>
    cases ready.loaded.symm.trans loaded
    obtain ⟨f, made⟩ := Chain.exists_buildAll_iff.mp
      ⟨_, Chain.buildAll_ok_iff.mpr ready.filters⟩ _ enabled
    cases made.symm.trans failed
  | read failed => cases read.symm.trans failed
  | parse there failed =>
    cases read.symm.trans there
    cases parsed.symm.trans failed
  | snapshot there again missing =>
    cases read.symm.trans there
    cases parsed.symm.trans again
    exact missing _ ready.picked

theorem exists_ready_iff :
    (∃ p, Ready configPath requestPath files p) ↔ ¬ Unready configPath requestPath files := by
  constructor
  · rintro ⟨p, ready⟩
    exact ready.not_unready
  · intro complete
    -- The setting plays no part in what there is to be ready.
    let s : Setting := ⟨⟨0, 0, 0⟩, [], Service.absent, .zero⟩
    cases decided : decide s configPath requestPath files with
    | ok r => exact ready_of_decide decided
    | error e => exact absurd (unready_of_decide decided) complete

/-- The clock can show every budget that a configuration may give. -/
theorem Ready.reaches {p : Setup} (ready : Ready configPath requestPath files p) :
    p.chain.Reaches (p.visit s) := by
  obtain ⟨_, _, same, _⟩ := Chain.ofConfig_ok_iff.mp ready.built
  have short := (EnforcementSection.hookTimeout_of_validate
    (Config.enforcement_of_validate ready.valid)).2
  rw [same]
  apply Time.Uptime.reaches_of_lt
  simp only [Time.Delay.ofMillis, Time.Delay.ofNanos, Time.Delay.seconds]
  omega

theorem answered {p : Setup} {more : List String}
    (ready : Ready configPath requestPath files p) :
    Answered s p (run s (configPath :: requestPath :: more) files) := by
  obtain ⟨d, decided⟩ := Chain.exists_decision ready.reaches p.start
  have ending : (p.answer s).1 = .decided d := decided
  have answer : p.answer s = (.decided d, (p.answer s).2) := by rw [← ending]
  have told : run s (configPath :: requestPath :: more) files =
      { status := status d
        stdout := d.toJson.pretty ++ "\n"
        exchanges := (p.answer s).2.exchanges } := by
    rw [run, decide_of_ready ready, answer]
  have exempt : p.chain.exemptProjects = p.config.enforcement.exemptProjects := by
    obtain ⟨_, _, same, _⟩ := Chain.ofConfig_ok_iff.mp ready.built
    rw [same]
  rw [told]
  constructor
  case allowed =>
    have allowed := Chain.answer_allow_iff p.chain (p.visit s) p.start
    simp only [ready.reaches, true_and] at allowed
    rw [← exempt]
    exact allowed
  case stdout => exact ⟨d, ending, Decision.run_pretty d⟩
  case exchanges => rfl
  all_goals
    rw [ending]
    cases d <;> simp [status]

theorem undecided {more : List String} (unready : Unready configPath requestPath files) :
    Undecided (run s (configPath :: requestPath :: more) files) := by
  cases decided : decide s configPath requestPath files with
  | ok r =>
    obtain ⟨p, ready⟩ := ready_of_decide decided
    exact absurd unready ready.not_unready
  | error e =>
    rw [run, decided]
    exact ⟨rfl, rfl, rfl⟩

/-- The check of any two files, against any service: either all is there, and the decision is
reported, or something is missing, and there is no decision. -/
theorem run_fails_closed (s : Setting) (configPath requestPath : String) (more : List String)
    (files : String → Text.File) :
    let report := run s (configPath :: requestPath :: more) files
    (∀ p, Ready configPath requestPath files p → Answered s p report) ∧
    (Unready configPath requestPath files → Undecided report) ∧
    ((∃ p, Ready configPath requestPath files p) ↔ ¬ Unready configPath requestPath files) := by
  intro report
  refine ⟨?ready, ?unready, ?either⟩
  case ready =>
    intro p ready
    exact answered ready
  case unready =>
    intro unready
    exact undecided unready
  case either => exact exists_ready_iff

-- Two hours are asked for where one is allowed.
example :
    let config := "version: 1\nenforcement:\n  enabled_filters: [MaxReservationLengthFilter]\n" ++
      "filters:\n  max_reservation_length:\n    max_reservation_length: 3600\n"
    let request := "\x7b\"hook\":\"create\",\"context\":\x7b\"user_id\":\"u\"," ++
      "\"project_id\":\"p\",\"auth_url\":\"a\",\"region_name\":\"r\"\x7d," ++
      "\"lease\":\x7b\"start_date\":\"2024-01-01T00:00:00Z\"," ++
      "\"end_date\":\"2024-01-01T02:00:00Z\"\x7d\x7d"
    let files : String → Text.File := fun path =>
      if path = "config" then .ok config else .ok request
    (run ⟨⟨0, 0, 0⟩, [], Service.absent, .zero⟩ ["config", "request"] files).status = 1 := by
  decide +kernel

end Check

end Admission
