import Admission.Proofs.Chain.Agreement
import Admission.Proofs.Delegate.Retry
import Admission.Proofs.Table
/-!
What a delegate tells of its token. Two runs that differ in the token alone write the same journal
but for the value of one header, and a token that cannot stand in a header is not sent at all. The
service may reply as it likes as long as it does not look at that value.
-/

namespace Admission

/-- The exchange with another value in the credential's header. -/
def Exchange.filled (value : String) (x : Exchange) : Exchange :=
  { x with post := { x.post with value := value } }

/-- A service that does not look at credentials, neither now nor in what went before. -/
def Service.Blind (s : Service) : Prop :=
  ∀ {before before' post post'},
    before.map (Exchange.filled "") = before'.map (Exchange.filled "") →
    { post with value := "" } = { post' with value := "" } → s before post = s before' post'

theorem Service.blind_scripted (replies : List Reply) (last : Reply) :
    (Service.scripted replies last).Blind := by
  intro before before' post post' same _
  have answered (l : List Exchange) :
      (l.filter fun e => decide (e.reply.arrival ≠ .refused)).length =
        ((l.map (Exchange.filled "")).filter fun e =>
          decide (e.reply.arrival ≠ .refused)).length := by
    rw [List.filter_map, List.length_map]
    rfl
  simp only [scripted, answered before, answered before', same]

namespace Delegate

/-- How a delegate comes by its token: it is given, or an environment variable holds it. -/
inductive Supply where
  | fixed
  | named (name : String)

namespace Supply

def source (token : String) : Supply → TokenSource
  | .fixed => .fixed token
  | .named name => .variable name

/-- The setting in which the token is supplied. -/
def setting (token : String) (s : Setting) : Supply → Setting
  | .fixed => s
  | .named name => { s with environment := s.environment.insert Text.order name token }

theorem token_source (supply : Supply) {token : String} (given : Text.blank token = false)
    (s : Setting) :
    (supply.source token).token (supply.setting token s).environment = .ok token := by
  cases supply with
  | fixed => rfl
  | named name =>
    simp [source, setting, TokenSource.token, Table.insert, Table.find?_alter_self, given]

/-- The section that names this supply. -/
def ofService (token : String) (c : ServiceSection) : Supply → ServiceSection
  | .fixed => { c with token := some token }
  | .named name => { c with token := none, tokenEnv := some name }

theorem setting_now (supply : Supply) (token : String) (s : Setting) :
    (supply.setting token s).now = s.now := by
  cases supply <;> rfl

theorem setting_uptime (supply : Supply) (token : String) (s : Setting) :
    (supply.setting token s).uptime = s.uptime := by
  cases supply <;> rfl

theorem setting_service (supply : Supply) (token : String) (s : Setting) :
    (supply.setting token s).service = s.service := by
  cases supply <;> rfl

end Supply

/-- Without the characters that a header must not hold. -/
def Legal (token : String) : Prop := token.toList.all legalInHeader = true

instance (token : String) : Decidable (Legal token) := inferInstanceAs (Decidable (_ = _))

theorem legal_value_iff (header : AuthHeader) (token : String) :
    (header.value token).toList.all legalInHeader = true ↔ Legal token := by
  cases header with
  | xAuthToken => rfl
  | bearer =>
    have front : "Bearer ".toList.all legalInHeader = true := by decide
    simp only [AuthHeader.value, String.toList_append, List.all_append, front, Bool.true_and]
    rfl

/-! One attempt. -/

/-- Settings that differ in the token alone, with a service that does not look at it. -/
def Supplied (supply : Supply) (token token' : String) (s s' : Setting) : Prop :=
  ∃ base, base.service.Blind ∧ s = supply.setting token base ∧ s' = supply.setting token' base

section Journals

variable {σ : Type}

/-- Journals that differ in the credentials of the exchanges since `before` alone. -/
def Conceals (before : List Exchange) (header : AuthHeader) (value value' : String)
    (j j' : Journal σ) : Prop :=
  ∃ sent : List Exchange, (∀ x ∈ sent, x.post.header = header) ∧
    j.exchanges = before ++ sent.map (Exchange.filled value) ∧
    j' = { j with exchanges := before ++ sent.map (Exchange.filled value') }

variable {before : List Exchange} {header : AuthHeader} {value value' : String}

theorem mirrors_conceals :
    Task.Mirrors (Conceals before header value value' : Journal σ → Journal σ → Prop) where
  clock := by
    rintro j _ ⟨sent, headers, made, rfl⟩
    rfl
  moves := by
    rintro j _ ⟨sent, headers, made, rfl⟩ n
    exact ⟨sent, headers, made, rfl⟩
  counts := by
    rintro j _ ⟨sent, headers, made, rfl⟩ f
    exact ⟨sent, headers, made, rfl⟩
  notes := by
    rintro j _ ⟨sent, headers, made, rfl⟩ e
    exact ⟨sent, headers, made, rfl⟩

theorem filled_filled (value value' : String) (x : Exchange) :
    (x.filled value).filled value' = x.filled value' := rfl

theorem agrees_exchange {supply : Supply} {token token' : String} (url : Url) (body : String) :
    Task.Agrees (Supplied supply token token')
      (Conceals before header value value' : Journal σ → Journal σ → Prop) Eq
      (exchange ⟨url, header, value, body⟩) (exchange ⟨url, header, value', body⟩) := by
  rintro _ _ deadline j _ ⟨base, blind, rfl, rfl⟩ ⟨sent, headers, made, rfl⟩
  let reply := base.service j.exchanges ⟨url, header, value, body⟩
  have same : base.service (before ++ sent.map (Exchange.filled value'))
      ⟨url, header, value', body⟩ = reply := by
    refine blind ?_ rfl
    simp [made, Function.comp_def, filled_filled]
  simp only [exchange, Task.run, Supply.setting_service, same]
  refine ⟨.some rfl, sent ++ [⟨⟨url, header, "", body⟩, reply⟩], ?_, ?_, ?_⟩
  · intro x member
    rcases List.mem_append.mp member with old | new
    · exact headers x old
    · rw [List.mem_singleton.mp new]
  · simp [made, Exchange.filled, reply]
  · simp [Exchange.filled]

/-- The delegate with its token from the supply. -/
def supplied (d : Delegate) (supply : Supply) (token : String) : Delegate :=
  d.withToken (supply.source token)

variable {supply : Supply} {token token' : String}

theorem agrees_attempt (given : Text.blank token = false) (given' : Text.blank token' = false)
    (legal : Legal token) (legal' : Legal token') (d : Delegate) (url : Url) (body : String) :
    Task.Agrees (Supplied supply token token')
      (Conceals before d.sender.header (d.sender.header.value token)
        (d.sender.header.value token') : Journal σ → Journal σ → Prop) Eq
      ((d.supplied supply token).sender.attempt url body)
      ((d.supplied supply token').sender.attempt url body) := by
  refine Task.agrees_setting.bind fun s s' settings => ?_
  obtain ⟨base, -, rfl, rfl⟩ := settings
  have passes := (legal_value_iff d.sender.header token).mpr legal
  have passes' := (legal_value_iff d.sender.header token').mpr legal'
  simp only [supplied, withToken, supply.token_source given, supply.token_source given', passes,
    passes', Bool.not_true, Bool.false_eq_true, if_false]
  split
  · exact Task.agrees_pure rfl
  · refine (agrees_exchange _ body).bind fun reply _ same => ?_
    exact same ▸ agrees_receive mirrors_conceals _ _ _

/-- An illegal token ends the attempt at once. -/
theorem run_attempt_illegal (given : Text.blank token = false) (illegal : ¬ Legal token)
    (d : Delegate) (url : Url) (body : String) (s : Setting) (deadline : Option Nat)
    (j : Journal σ) :
    ((d.supplied supply token).sender.attempt url body).run (supply.setting token s) deadline j =
      (some (.error (.fatal "token is not a valid header value")), j) := by
  have fails : (d.sender.header.value token).toList.all legalInHeader = false := by
    rw [← Bool.not_eq_true, legal_value_iff]
    exact illegal
  have settled : (Task.setting : Task σ Setting).run (supply.setting token s) deadline j =
      (some (supply.setting token s), j) := rfl
  unfold Sender.attempt
  rw [Task.run_bind_some settled]
  simp only [supplied, withToken, supply.token_source given, fails, Bool.not_false, if_true]
  rfl

/-! Runs. -/

theorem agrees_filter (given : Text.blank token = false) (given' : Text.blank token' = false)
    (legal : Legal token) (legal' : Legal token') (d : Delegate) (ctx : Context)
    (change : Change) :
    Task.Agrees (Supplied supply token token')
      (Conceals before d.sender.header (d.sender.header.value token)
        (d.sender.header.value token') : Journal σ → Journal σ → Prop) Eq
      ((d.supplied supply token).filter.call ctx change)
      ((d.supplied supply token').filter.call ctx change) := by
  rw [← filterWith_sendAttempt, ← filterWith_sendAttempt]
  refine agrees_call mirrors_conceals (d.supplied supply token) (d.supplied supply token') rfl rfl
    (fun _ url body _ => ?_) ctx change
  exact agrees_attempt given given' legal legal' d url body

/-- One call of the filter, and how long it may take. -/
structure HookCall where
  setting : Setting
  deadline : Option Nat
  context : Context
  change : Change

/-- One call after another, all with the token that is supplied. -/
def runWith (d : Delegate) (supply : Supply) (token : String) :
    List HookCall → Journal σ → List (Option Admission.Ending) × Journal σ
  | [], j => ([], j)
  | c :: rest, j =>
      let (ending, j) := ((d.supplied supply token).filter.call c.context c.change).run
        (supply.setting token c.setting) c.deadline j
      let (endings, j) := runWith d supply token rest j
      (ending :: endings, j)

theorem runWith_conceals (given : Text.blank token = false) (given' : Text.blank token' = false)
    (legal : Legal token) (legal' : Legal token') (d : Delegate) {calls : List HookCall}
    (blind : ∀ c ∈ calls, c.setting.service.Blind) {j j' : Journal σ}
    (journals : Conceals before d.sender.header (d.sender.header.value token)
      (d.sender.header.value token') j j') :
    (d.runWith supply token calls j).1 = (d.runWith supply token' calls j').1 ∧
      Conceals before d.sender.header (d.sender.header.value token)
        (d.sender.header.value token') (d.runWith supply token calls j).2
        (d.runWith supply token' calls j').2 := by
  induction calls generalizing j j' with
  | nil => exact ⟨rfl, journals⟩
  | cons c rest ih =>
    obtain ⟨endings, after⟩ := agrees_filter given given' legal legal' d c.context c.change _ _
      c.deadline j j' ⟨c.setting, blind c (by simp), rfl, rfl⟩ journals
    obtain ⟨later, last⟩ := ih (fun c member => blind c (by simp [member])) after
    simp only [runWith]
    exact ⟨by rw [Task.eq_of_rel endings, later], last⟩

/-- What the filter answers when its token is illegal. -/
def refusal (d : Delegate) (hook : Hook) : Decision :=
  match d.targets.get hook with
  | none => .allow
  | some _ => .error filterName "token is not a valid header value"

/-- What such a call leaves behind. -/
def refused (d : Delegate) (hook : Hook) (j : Journal σ) : Journal σ :=
  match d.targets.get hook with
  | none => j.note (.notDelegated hook)
  | some _ => d.caller.counting (Metrics.countCall hook .transportError)
      (d.caller.counting (Metrics.observeCall hook (.ofNanos (j.elapsed - j.elapsed))) j)

theorem refused_exchanges (d : Delegate) (hook : Hook) (j : Journal σ) :
    (d.refused hook j).exchanges = j.exchanges := by
  unfold refused Caller.counting
  split
  · rfl
  · split <;> rfl

theorem exchanges_refused (d : Delegate) (calls : List HookCall) (j : Journal σ) :
    (calls.foldl (fun j c => d.refused c.change.hook j) j).exchanges = j.exchanges := by
  induction calls generalizing j with
  | nil => rfl
  | cons c rest ih => exact (ih _).trans (refused_exchanges d c.change.hook j)

theorem run_call_fatal (c : Caller) (hook : Hook) (url : Url) {send : Nat → Task σ Outcome}
    {reason : String} {s : Setting} {deadline : Option Nat} {j : Journal σ}
    (ran : (send 0).run s deadline j = (some (.error (.fatal reason)), j)) :
    (c.call hook url send).run s deadline j =
      (some (.error filterName reason), c.counting (Metrics.countCall hook .transportError)
        (c.counting (Metrics.observeCall hook (.ofNanos (j.elapsed - j.elapsed))) j)) := by
  have settles : settled? (.error (.fatal reason)) = some (.error filterName reason) := rfl
  rw [Caller.call, Caller.callFrom_settles (Caller.run_timed ran) settles]
  rfl

theorem run_filter_illegal (given : Text.blank token = false) (illegal : ¬ Legal token)
    (d : Delegate) (ctx : Context) (change : Change) (s : Setting) (deadline : Option Nat)
    (j : Journal σ) :
    ((d.supplied supply token).filter.call ctx change).run (supply.setting token s) deadline j =
      (some (.decided (d.refusal change.hook)), d.refused change.hook j) := by
  have asked : ((d.supplied supply token).ask ctx change).run (supply.setting token s) deadline j =
      (some (d.refusal change.hook), d.refused change.hook j) := by
    unfold ask consult refusal refused
    have targets : (d.supplied supply token).targets = d.targets := rfl
    rw [targets]
    cases d.targets.get change.hook with
    | none => rfl
    | some url =>
      exact run_call_fatal d.caller change.hook url
        (run_attempt_illegal given illegal d url _ s deadline j)
  simp only [filter]
  rw [Task.run_bind_some asked]
  rfl

theorem runWith_illegal (given : Text.blank token = false) (illegal : ¬ Legal token)
    (d : Delegate) (calls : List HookCall) (j : Journal σ) :
    d.runWith supply token calls j =
      (calls.map fun c => some (.decided (d.refusal c.change.hook)),
        calls.foldl (fun j c => d.refused c.change.hook j) j) := by
  induction calls generalizing j with
  | nil => rfl
  | cons c rest ih =>
    rw [runWith, run_filter_illegal given illegal, List.map_cons, List.foldl_cons]
    simp only [ih]

/-- Runs with two tokens that can be sent come to the same decisions, metrics and log, and send
the same requests but for the token in the one header. A token that cannot be sent is not sent,
and fails every hook that has a target with a text that does not depend on it. -/
theorem token_noninterference (d : Delegate) (supply : Supply) {token token' : String}
    (given : Text.blank token = false) (given' : Text.blank token' = false)
    (calls : List HookCall) (j : Journal σ) :
    let r := d.runWith supply token calls j
    let r' := d.runWith supply token' calls j
    (Legal token → Legal token' → (∀ c ∈ calls, c.setting.service.Blind) →
      r.1 = r'.1 ∧ r.2.metrics = r'.2.metrics ∧ r.2.events = r'.2.events ∧
      ∃ sent : List Exchange, (∀ x ∈ sent, x.post.header = d.sender.header) ∧
        r.2.exchanges =
          j.exchanges ++ sent.map (Exchange.filled (d.sender.header.value token)) ∧
        r'.2.exchanges =
          j.exchanges ++ sent.map (Exchange.filled (d.sender.header.value token'))) ∧
    (¬ Legal token → r.2.exchanges = j.exchanges ∧
      r.1 = calls.map fun c => some (.decided (match d.targets.get c.change.hook with
        | none => .allow
        | some _ => .error "ExternalServiceFilter" "token is not a valid header value"))) ∧
    (¬ Legal token → ¬ Legal token' → r = r') := by
  intro r r'
  refine ⟨?legal, ?illegal, ?alike⟩
  case legal =>
    intro legal legal' blind
    have start : Conceals j.exchanges d.sender.header (d.sender.header.value token)
        (d.sender.header.value token') j j := ⟨[], by simp, by simp, by simp⟩
    obtain ⟨endings, sent, headers, made, same⟩ :=
      runWith_conceals given given' legal legal' d blind start
    refine ⟨endings, ?_, ?_, sent, headers, made, ?_⟩
    · exact (congrArg Journal.metrics same).symm
    · exact (congrArg Journal.events same).symm
    · exact congrArg Journal.exchanges same
  case illegal =>
    intro illegal
    have run : r = _ := runWith_illegal given illegal d calls j
    rw [run]
    exact ⟨exchanges_refused d calls j, rfl⟩
  case alike =>
    intro illegal illegal'
    exact (runWith_illegal given illegal d calls j).trans
      (runWith_illegal given' illegal' d calls j).symm

/-! Chains. -/

/-- A token goes from its section to where it is supplied from, and nowhere else. -/
theorem ofSection_supplied {c : ServiceSection} {counted : Bool} {d : Delegate}
    (built : ofSection (supply.ofService token c) counted = .ok d) (token' : String) :
    d = d.supplied supply token ∧ d.sender.header = c.authHeader ∧
      ofSection (supply.ofService token' c) counted = .ok (d.supplied supply token') := by
  obtain ⟨source, given, built⟩ := of_bind_ok built
  obtain ⟨targets, resolved, built⟩ := of_bind_ok built
  have sources (t : String) : tokenSource (supply.ofService t c) = .ok (supply.source t) := by
    cases supply <;> rfl
  have resolves (t : String) : Targets.resolve (supply.ofService t c) = Targets.resolve c := by
    cases supply <;> rfl
  cases (sources token).symm.trans given
  cases built
  rw [resolves token] at resolved
  refine ⟨rfl, by cases supply <;> rfl, ?_⟩
  unfold ofSection
  rw [sources token', resolves token', resolved]
  cases supply <;> rfl

/-- Chains from two configurations that differ in the token alone come to the same ends, counters
and log on every run, and send the same requests but for that token. -/
theorem run_conceals (given : Text.blank token = false) (given' : Text.blank token' = false)
    (legal : Legal token) (legal' : Legal token') {config : Config} {service : ServiceSection}
    {c c' : Chain σ} {events events' : List Event}
    (built : Chain.ofConfig { config with filters := { config.filters with
      service := some (supply.ofService token service) } } Registry.builtin = .ok (c, events))
    (built' : Chain.ofConfig { config with filters := { config.filters with
      service := some (supply.ofService token' service) } } Registry.builtin = .ok (c', events'))
    {visits : List Visit} (blind : ∀ v ∈ visits, v.setting.service.Blind) (j : Journal σ) :
    let asked (token : String) (v : Visit) : Visit :=
      { v with setting := supply.setting token v.setting }
    let r := c.run (visits.map (asked token)) j
    let r' := c'.run (visits.map (asked token')) j
    r.1 = r'.1 ∧ Conceals j.exchanges service.authHeader (service.authHeader.value token)
      (service.authHeader.value token') r.2 r'.2 := by
  intro asked r r'
  have chains : Chain.Agrees (Supplied supply token token')
      (Conceals j.exchanges service.authHeader (service.authHeader.value token)
        (service.authHeader.value token')) c c' := by
    rw [← Registry.builtinWith_sendAttempt] at built built'
    refine Chain.agrees_of_builtinWith mirrors_conceals ?_ built built' rfl rfl ?_
    · rintro _ _ ⟨base, -, rfl, rfl⟩
      rw [supply.setting_now, supply.setting_now]
    · rintro _ _ d d' ⟨⟩ ⟨⟩ made made'
      obtain ⟨same, header, remade⟩ := ofSection_supplied made token'
      cases remade.symm.trans made'
      rw [same, Delegate.filterWith_sendAttempt, Delegate.filterWith_sendAttempt, ← header]
      exact ⟨rfl, agrees_filter given given' legal legal' d⟩
  have questions : List.Forall₂ (Visit.Agrees (Supplied supply token token'))
      (visits.map (asked token)) (visits.map (asked token')) := by
    rw [List.forall₂_map_left_iff, List.forall₂_map_right_iff, List.forall₂_same]
    exact fun v member => ⟨⟨v.setting, blind v member, rfl, rfl⟩, rfl, rfl⟩
  refine Chain.agrees_run mirrors_conceals ?_ chains questions ⟨[], by simp, by simp, by simp⟩
  rintro _ _ ⟨base, -, rfl, rfl⟩
  rw [supply.setting_uptime, supply.setting_uptime]

-- The first request is lost, and its retry is denied.
theorem token_noninterference_denied :
    let u : Url := { scheme := Url.http, host := some (.name ['h']), path := .segments [['c']] }
    let d : Delegate :=
      { targets := ⟨some u, none, none⟩
        sender := ⟨⟨5000000000, 2000000000⟩, .bearer, .fixed ""⟩
        caller := ⟨true, 1, .ofMillis 100, .ofMillis 2000⟩ }
    let service := Service.scripted
      [⟨none, .closed⟩, ⟨some 7, .response 403 ⟨some 0, some [110, 111]⟩⟩] ⟨some 0, .refused⟩
    let lease : Lease := ⟨none, none, ⟨0, 0, 0⟩, ⟨1, 0, 0⟩, []⟩
    let call (change : Change) : HookCall :=
      ⟨⟨⟨0, 0, 0⟩, [], service, .zero⟩, none, ⟨"u", "p", "a", "r"⟩, change⟩
    let calls := [call (.create lease), call (.onEnd lease)]
    let run (token : String) := d.runWith (.named "TOKEN") token calls { memory := () }
    Text.blank "a" = false ∧ Text.blank "b c" = false ∧ Text.blank "a\n" = false ∧
      Legal "a" ∧ Legal "b c" ∧ ¬ Legal "a\n" ∧ (∀ c ∈ calls, c.setting.service.Blind) ∧
      (run "a").1 = (run "b c").1 ∧ (run "a").2.events = (run "b c").2.events ∧
      (run "b c").2.exchanges.map (·.post.value) = ["Bearer b c", "Bearer b c"] ∧
      (run "a").1 = [some (.decided (.deny "ExternalServiceFilter" "no")), some (.decided .allow)] ∧
      (run "a\n").2.exchanges = [] := by
  intro u d service lease call calls run
  have blind : ∀ c ∈ calls, c.setting.service.Blind := by
    simp [calls, call, service, Service.blind_scripted]
  have given : Text.blank "a" = false := by decide
  have given' : Text.blank "b c" = false := by decide
  have given'' : Text.blank "a\n" = false := by decide
  have legal : Legal "a" := by decide
  have legal' : Legal "b c" := by decide
  have illegal : ¬ Legal "a\n" := by decide
  obtain ⟨alike, -, -⟩ :=
    token_noninterference d (.named "TOKEN") given given' calls { memory := () }
  obtain ⟨endings, -, events, -⟩ := alike legal legal' blind
  obtain ⟨-, unsent, -⟩ :=
    token_noninterference d (.named "TOKEN") given'' given'' calls { memory := () }
  exact ⟨given, given', given'', legal, legal', illegal, blind, endings, events, by decide +kernel,
    by decide +kernel, (unsent illegal).1⟩

end Journals

end Delegate

end Admission
