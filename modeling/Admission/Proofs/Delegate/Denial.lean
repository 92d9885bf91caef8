import Admission.Proofs.Delegate.Attempt
import Admission.Proofs.Delegate.Reason
import Admission.Proofs.Delegate.Retry
/-!
Denials by the policy service. A call without a deadline always comes to a decision, and one in
which the service has forbidden something comes to a denial, even where the body of the response
could not be read. The main statement also says what the reason is.
-/

namespace Admission.Delegate

variable {σ : Type}

/-! Calls end. -/

theorem finishes_within (limit : Nat) (after : Option Nat) :
    (within limit after : Task σ Bool).Finishes := by
  have pause (n : Nat) (b : Bool) : (do Task.wait n; return b : Task σ Bool).Finishes :=
    (Task.finishes_wait n).bind fun _ => Task.finishes_pure b
  unfold within
  split
  · split
    · exact pause _ true
    · exact pause _ false
  · exact pause _ false

theorem finishes_receive (limits : Limits) (url : Url) (reply : Reply) :
    (receive limits url reply : Task σ Outcome).Finishes := by
  refine (finishes_within _ _).bind fun arrived => ?_
  split
  · exact Task.finishes_pure _
  · split
    · exact Task.finishes_pure _
    · exact Task.finishes_pure _
    · split
      · refine .bind ((finishes_within _ _).bind fun whole => ?_) fun _ => Task.finishes_pure _
        split <;> exact Task.finishes_pure _
      · exact Task.finishes_pure _

theorem finishes_attempt (c : Sender) (url : Url) (body : String) :
    (c.attempt url body : Task σ Outcome).Finishes := by
  have asks (post : Post) : (exchange post : Task σ Reply).Finishes := fun _ _ => ⟨_, _, rfl⟩
  refine Task.finishes_setting.bind fun s => ?_
  cases c.token.token s.environment with
  | error name => exact Task.finishes_pure _
  | ok token =>
    dsimp only
    split
    · exact Task.finishes_pure _
    · split
      · exact Task.finishes_pure _
      · exact (asks _).bind fun reply => finishes_receive _ _ reply

namespace Caller

/-- An attempt that ends settles the call or is lost. -/
theorem callFrom_settled_or_lost {c : Caller} {hook : Hook} {url : Url}
    {send : Nat → Task σ Outcome} {failed : Nat} (ends : (send failed).Finishes) (left : Nat)
    (s : Setting) (j : Journal σ) :
    (∃ d last, (c.callFrom hook url send left failed).run s none j = (some d, last)) ∨
      ∃ timedOut text next, (c.timed hook (send failed)).run s none j =
        (some (.error (.transport timedOut text)), next) := by
  obtain ⟨o, next, ran⟩ := ends s j
  have timed : (c.timed hook (send failed)).run s none j = (some o, _) := run_timed ran
  by_cases lost : Lost o
  · obtain ⟨timedOut, text, rfl⟩ := lost
    exact .inr ⟨timedOut, text, _, timed⟩
  · obtain ⟨d, settles⟩ := settled_of_not_lost lost
    exact .inl ⟨d, _, callFrom_settles timed settles⟩

theorem finishes_callFrom (c : Caller) (hook : Hook) (url : Url) {send : Nat → Task σ Outcome}
    (ends : ∀ failed, (send failed).Finishes) (left failed : Nat) :
    (c.callFrom hook url send left failed).Finishes := by
  intro s j
  induction left generalizing failed j with
  | zero =>
    rcases callFrom_settled_or_lost (ends failed) 0 s j with settled | ⟨_, _, _, timed⟩
    · exact settled
    · exact ⟨_, _, callFrom_gives_up timed⟩
  | succ left ih =>
    rcases callFrom_settled_or_lost (ends failed) (left + 1) s j with settled | ⟨_, _, _, timed⟩
    · exact settled
    · rw [callFrom_retries timed]
      exact ih _ _

end Caller

theorem finishes_ask (d : Delegate) (ctx : Context) (change : Change) :
    (d.ask ctx change : Task σ Decision).Finishes := by
  unfold ask consult
  split
  · exact (Task.finishes_update _).bind fun _ => Task.finishes_pure _
  · exact d.caller.finishes_callFrom _ _ (fun _ => finishes_attempt _ _ _) _ _

/-! Responses that forbid. -/

/-- A response that forbids, early enough to leave some time for its content. -/
structure Forbids (limit : Nat) (reply : Reply) (content : Content) (left : Nat) : Prop where
  arrival : reply.arrival = .response forbidden content
  after : ∃ n, reply.after = some n ∧ n + left = limit

/-- The content has arrived as a whole before the time is up. -/
def Arrives (content : Content) (left : Nat) (bytes : List UInt8) : Prop :=
  content.bytes = some bytes ∧ ∃ n ≤ left, content.after = some n

def bodyText (bytes : List UInt8) : String := String.ofList (Text.Utf8.decodeLossy bytes)

/-- The text of a body, which is empty if the body cannot be read. -/
structure HasBody (content : Content) (left : Nat) (body : String) : Prop where
  whole : ∀ bytes, Arrives content left bytes → body = bodyText bytes
  broken : (∀ bytes, ¬ Arrives content left bytes) → body = ""

variable {s : Setting} {deadline : Option Nat} {j next : Journal σ}

theorem within_eq_true_iff {limit : Nat} {after : Option Nat} {arrived : Bool}
    (ran : (within limit after).run s deadline j = (some arrived, next)) :
    arrived = true ↔ ∃ n ≤ limit, after = some n := by
  have paused (n : Nat) {b : Bool}
      (ran : (do Task.wait n; return b : Task σ Bool).run s deadline j = (some arrived, next)) :
      arrived = b := by
    obtain ⟨_, _, _, done⟩ := Task.run_bind_eq_some ran
    cases done
    rfl
  unfold within at ran
  split at ran
  · rename_i n
    split at ran
    · rename_i inTime
      simpa [paused n ran] using inTime
    · rename_i late
      simpa [paused limit ran] using late
  · simp [paused limit ran]

theorem hasBody_readBody {left : Nat} {content : Content} {body : String}
    (ran : (readBody left content).run s deadline j = (some body, next)) :
    HasBody content left body := by
  obtain ⟨arrived, middle, waited, read⟩ := Task.run_bind_eq_some ran
  have inTime := within_eq_true_iff waited
  cases arrived with
  | true =>
    obtain ⟨n, early, after⟩ := inTime.mp rfl
    cases read
    constructor
    · rintro bytes ⟨whole, -⟩
      simp [bodyText, whole]
    · intro broken
      cases bytes : content.bytes with
      | none => rfl
      | some bytes' => exact absurd ⟨bytes, n, early, after⟩ (broken bytes')
  | false =>
    cases read
    refine ⟨?_, fun _ => rfl⟩
    rintro bytes ⟨-, early⟩
    exact absurd (inTime.mpr early) (by decide)

theorem receive_forbids {limits : Limits} {url : Url} {reply : Reply} {content : Content}
    {left : Nat} {o : Outcome} (forbids : Forbids limits.total reply content left)
    (ran : (receive limits url reply).run s deadline j = (some o, next)) :
    ∃ body, o = .ok ⟨forbidden, body⟩ ∧ HasBody content left body := by
  obtain ⟨arrival, n, after, total⟩ := forbids
  unfold receive at ran
  simp only [arrival, after] at ran
  obtain ⟨arrived, middle, waited, received⟩ := Task.run_bind_eq_some ran
  have inTime : arrived = true :=
    (within_eq_true_iff waited).mpr ⟨n, by omega, rfl⟩
  rw [inTime] at received
  obtain ⟨body, last, read, done⟩ := Task.run_bind_eq_some received
  cases done
  have rest : limits.total - (some n).getD 0 = left := by
    rw [Option.getD_some]
    omega
  rw [rest] at read
  exact ⟨body, rfl, hasBody_readBody read⟩

/-! Exchanges. -/

/-- An attempt that has sent its request is what comes of the reply. -/
theorem attempt_exchanges {c : Sender} {url : Url} {body : String} {o : Outcome}
    (ran : (c.attempt url body).run s deadline j = (some o, next)) :
    next.exchanges = j.exchanges ∨
      ∃ x middle, next.exchanges = j.exchanges ++ [x] ∧
        (receive c.limits url x.reply).run s deadline middle = (some o, next) := by
  unfold Sender.attempt at ran
  obtain ⟨_, _, here, ran⟩ := Task.run_bind_eq_some ran
  cases here
  have unsent {o' : Outcome}
      (ran : (pure o' : Task σ Outcome).run s deadline j = (some o, next)) :
      next.exchanges = j.exchanges := by
    cases ran
    rfl
  cases token : c.token.token s.environment with
  | error name =>
    rw [token] at ran
    exact .inl (unsent ran)
  | ok token' =>
    rw [token] at ran
    dsimp only at ran
    split at ran
    · exact .inl (unsent ran)
    · split at ran
      · exact .inl (unsent ran)
      · obtain ⟨reply, asked, sent, received⟩ := Task.run_bind_eq_some ran
        have kept : next.exchanges = asked.exchanges :=
          (keeps_receive (fun _ _ => rfl) c.limits url reply).eq_of_run received
        cases sent
        exact .inr ⟨⟨_, _⟩, _, kept, received⟩

/-- Every response that forbids, of those that came between two journals, has consequences that
depend on the text of its body. -/
def Answered (limit : Nat) (j last : Journal σ) (follows : String → Prop) : Prop :=
  ∃ made, last.exchanges = j.exchanges ++ made ∧
    ∀ x ∈ made, ∀ content left, Forbids limit x.reply content left →
      ∃ body, HasBody content left body ∧ follows body

theorem answered_of_eq {limit : Nat} {j last : Journal σ} {follows : String → Prop}
    (same : last.exchanges = j.exchanges) : Answered limit j last follows :=
  ⟨[], by simpa using same, by simp⟩

theorem Answered.imp {limit : Nat} {j last : Journal σ} {follows follows' : String → Prop}
    (answered : Answered limit j last follows) (weaker : ∀ body, follows body → follows' body) :
    Answered limit j last follows' := by
  obtain ⟨made, exchanges, each⟩ := answered
  refine ⟨made, exchanges, fun x member content left forbids => ?_⟩
  obtain ⟨body, read, follows⟩ := each x member content left forbids
  exact ⟨body, read, weaker body follows⟩

theorem Answered.trans {limit : Nat} {j middle last : Journal σ} {follows : String → Prop}
    (first : Answered limit j middle follows) (second : Answered limit middle last follows) :
    Answered limit j last follows := by
  obtain ⟨made, exchanges, each⟩ := first
  obtain ⟨more, exchanges', each'⟩ := second
  refine ⟨made ++ more, by rw [exchanges', exchanges, List.append_assoc], fun x member => ?_⟩
  rcases List.mem_append.mp member with before | after
  · exact each x before
  · exact each' x after

theorem answered_attempt {c : Sender} {url : Url} {body : String} {o : Outcome}
    (ran : (c.attempt url body).run s deadline j = (some o, next)) :
    Answered c.limits.total j next fun text => o = .ok ⟨forbidden, text⟩ := by
  rcases attempt_exchanges ran with same | ⟨x, middle, more, received⟩
  · exact answered_of_eq same
  · refine ⟨[x], more, fun y member content left forbids => ?_⟩
    cases List.mem_singleton.mp member
    obtain ⟨text, result, read⟩ := receive_forbids forbids received
    exact ⟨text, read, result⟩

namespace Caller

@[simp]
theorem counting_exchanges (c : Caller) (f : Metrics → Metrics) (j : Journal σ) :
    (c.counting f j).exchanges = j.exchanges := by
  unfold counting
  split <;> rfl

@[simp]
theorem retrying_exchanges (c : Caller) (hook : Hook) (url : Url) (failed : Nat) (text : String)
    (j : Journal σ) : (c.retrying hook url failed text j).exchanges = j.exchanges := by
  simp [retrying, Journal.note]

/-- A call that comes to a decision makes an attempt, and then the decision is that of the attempt,
or the attempt was lost and the call is given up or goes on. -/
theorem callFrom_decided {c : Caller} {hook : Hook} {url : Url} {send : Nat → Task σ Outcome}
    {left failed : Nat} {d : Decision} {last : Journal σ}
    (ran : (c.callFrom hook url send left failed).run s deadline j = (some d, last)) :
    ∃ o next, (send failed).run s deadline j = (some o, next) ∧
      ((settled? o = some d ∨ Lost o) ∧ last.exchanges = next.exchanges ∨
        Lost o ∧ ∃ fewer again, left = fewer + 1 ∧ again.exchanges = next.exchanges ∧
          (c.callFrom hook url send fewer (failed + 1)).run s deadline again = (some d, last)) := by
  cases attempted : (send failed).run s deadline j with
  | mk result next =>
    cases result with
    | none =>
      have cut : (c.timed hook (send failed)).run s deadline j = (none, next) :=
        (Task.run_bind_some (Task.run_journal ..)).trans (Task.run_bind_none attempted)
      rw [callFrom_cut cut] at ran
      cases ran
    | some o =>
      have timed : (c.timed hook (send failed)).run s deadline j = (some o, _) :=
        run_timed attempted
      refine ⟨o, next, rfl, ?_⟩
      by_cases lost : Lost o
      · obtain ⟨timedOut, text, rfl⟩ := lost
        cases left with
        | zero =>
          rw [callFrom_gives_up timed] at ran
          cases ran
          exact .inl ⟨.inr ⟨_, _, rfl⟩, by simp⟩
        | succ fewer =>
          rcases callFrom_retries_or_cut timed with again | ⟨_, cut, _⟩
          · rw [again] at ran
            exact .inr ⟨⟨_, _, rfl⟩, fewer, _, rfl, by simp, ran⟩
          · rw [cut] at ran
            cases ran
      · obtain ⟨d', settles⟩ := settled_of_not_lost lost
        rw [callFrom_settles timed settles] at ran
        cases ran
        exact .inl ⟨.inl settles, by simp⟩

end Caller

/-- No response that forbids is lost, and what it settles is a denial. -/
theorem denied_of_forbidden {o : Outcome} {d : Decision} (reached : settled? o = some d ∨ Lost o)
    {text : String} (result : o = .ok ⟨forbidden, text⟩) :
    d = .deny filterName (denyReason text) := by
  subst result
  rcases reached with settles | ⟨_, _, lost⟩
  · simpa [settled?, forbidden] using settles.symm
  · cases lost

/-- However many attempts were lost before, a response that forbids settles the call. -/
theorem answered_callFrom {c : Caller} {hook : Hook} {url : Url} {sender : Sender} {body : String}
    {left failed : Nat} {d : Decision} {last : Journal σ}
    (ran : (c.callFrom hook url (fun _ => sender.attempt url body) left failed).run s deadline j =
      (some d, last)) :
    Answered sender.limits.total j last fun text => d = .deny filterName (denyReason text) := by
  induction left generalizing failed j with
  | zero =>
    obtain ⟨o, next, attempted, ⟨reached, same⟩ | ⟨_, _, _, none, _⟩⟩ :=
      Caller.callFrom_decided ran
    · exact ((answered_attempt attempted).imp fun _ => denied_of_forbidden reached).trans
        (answered_of_eq same)
    · cases none
  | succ left ih =>
    obtain ⟨o, next, attempted, ⟨reached, same⟩ | ⟨lost, fewer, again, more, same, ran⟩⟩ :=
      Caller.callFrom_decided ran
    · exact ((answered_attempt attempted).imp fun _ => denied_of_forbidden reached).trans
        (answered_of_eq same)
    · cases more
      exact ((answered_attempt attempted).imp fun _ => denied_of_forbidden (.inr lost)).trans
        ((answered_of_eq same).trans (ih ran))

theorem answered_ask {d : Delegate} {ctx : Context} {change : Change} {decision : Decision}
    {last : Journal σ} (ran : (d.ask ctx change).run s deadline j = (some decision, last)) :
    Answered d.sender.limits.total j last fun text =>
      decision = .deny filterName (denyReason text) := by
  unfold ask consult at ran
  split at ran
  · cases ran
    exact answered_of_eq rfl
  · exact answered_callFrom ran

theorem denyReason_empty : denyReason "" = noReason := by
  rw [denyReason_of_silent]
  · rfl
  · intro m decoded
    cases decoded

/-- A body with another member, escapes in the key and in the message, and white space. -/
def spelledBody : List Char :=
  " \x7b\"n\":[ ],\"m\\u0065ssage\"\t:\"n\\uD83d\\ude00\"\x7d\n".toList

open Json (Blanks Spells Written) in
theorem says_spelledBody : Says "n😀" spelledBody := by
  have none : Blanks [] := by simp [Blanks]
  have space : Blanks [' '] := by simp [Blanks]
  have tab : Blanks ['\t'] := by simp [Blanks]
  have line : Blanks ['\n'] := by simp [Blanks]
  have plain (c : Char) (visible : 0x20 ≤ c.toNat ∧ c ≠ '"' ∧ c ≠ '\\') : Json.Spelling c [c] :=
    .plain visible
  have digit (c : Char) (n : Nat) (listed : Json.hexDigits.contains (c, n) = true) :
      (c, n) ∈ Json.hexDigits := List.contains_iff_mem.mp listed
  have lead : Json.Quad (0xD800 + 0x3D) ['D', '8', '3', 'd'] :=
    .mk (digit 'D' 13 rfl) (digit '8' 8 rfl) (digit '3' 3 rfl) (digit 'd' 13 rfl)
  have trail : Json.Quad (0xDC00 + 0x200) ['d', 'e', '0', '0'] :=
    .mk (digit 'd' 13 rfl) (digit 'e' 14 rfl) (digit '0' 0 rfl) (digit '0' 0 rfl)
  have unit : Json.Quad 'e'.toNat ['0', '0', '6', '5'] :=
    .mk (digit '0' 0 rfl) (digit '0' 0 rfl) (digit '6' 6 rfl) (digit '5' 5 rfl)
  have message : Spells "n😀".toList
      ['n', '\\', 'u', 'D', '8', '3', 'd', '\\', 'u', 'd', 'e', '0', '0'] := by
    rw [show "n😀".toList = ['n', '😀'] from by simp]
    exact .cons (plain 'n' (by decide)) <| .cons
      (.pair (by decide) (by decide) (by decide) lead trail) .nil
  have key : Spells "message".toList
      ['m', '\\', 'u', '0', '0', '6', '5', 's', 's', 'a', 'g', 'e'] := by
    rw [show "message".toList = ['m', 'e', 's', 's', 'a', 'g', 'e'] from by simp]
    exact .cons (plain 'm' (by decide)) <| .cons (.unit unit) <| .cons (plain 's' (by decide)) <|
      .cons (plain 's' (by decide)) <| .cons (plain 'a' (by decide)) <|
      .cons (plain 'g' (by decide)) <| .cons (plain 'e' (by decide)) .nil
  have name : Spells "n".toList ['n'] := by
    rw [show "n".toList = ['n'] from by simp]
    exact .cons (plain 'n' (by decide)) .nil
  have value : Written .value ['[', ' ', ']'] := .empty .list space
  have others : ∀ e ∈ [("n", ['[', ' ', ']'])] ++ [], e.1 ≠ "message" ∧ Written .value e.2 := by
    simp [value]
  have told := Says.mk space line message others
    (.some (.mk none name none none none) (.next (.mk none key tab none none) .close))
  convert told using 1
  decide +kernel

/-- A service that loses the first request and forbids the second one. -/
def sampleReplies (content : Content) : List Reply :=
  [⟨none, .closed⟩, ⟨some 7, .response forbidden content⟩]

def sampleDelegate : Delegate where
  targets := ⟨some { scheme := Url.http, host := some (.name ['h']), path := .segments [['c']] },
    none, none⟩
  sender := ⟨⟨5000000000, 2000000000⟩, .bearer, .fixed "t"⟩
  caller := ⟨true, 1, .ofMillis 100, .ofMillis 2000⟩

def sampleRun (content : Content) : Option Decision × Journal Unit :=
  (sampleDelegate.ask ⟨"u", "p", "a", "r"⟩ (.create ⟨none, none, ⟨0, 0, 0⟩, ⟨1, 0, 0⟩, []⟩)).run
    ⟨⟨0, 0, 0⟩, [], Service.scripted (sampleReplies content) ⟨some 0, .refused⟩, .zero⟩ none
    { memory := () }

end Admission.Delegate
