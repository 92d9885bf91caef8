import Mathlib.Algebra.Module.Submodule.Lattice
import Mathlib.Computability.Primrec.List
import Mathlib.Data.List.Permutation
import Admission.Delegate.Basic
import Admission.Proofs.Lease.Wire
import Admission.Request
/-!
What is posted for a request, and the request that the body makes once it names its hook.
-/

namespace Admission

open Json (Gives Made Reads Yields)

namespace Change

def Floatless (c : Change) : Prop := ∀ l ∈ c.snapshots, l.Floatless

def proposed? : Change → Option Lease
  | .create lease => some lease
  | .update _ lease => some lease
  | .onEnd _ => none

def current? : Change → Option Lease
  | .create _ => none
  | .update current _ => some current
  | .onEnd current => some current

theorem proposed_mem {c : Change} {l : Lease} (given : c.proposed? = some l) : l ∈ c.snapshots := by
  cases c <;> cases given <;> simp [snapshots]

theorem current_mem {c : Change} {l : Lease} (given : c.current? = some l) : l ∈ c.snapshots := by
  cases c <;> cases given <;> simp [snapshots]

end Change

namespace Delegate

/-- The members of the body that is posted for a hook. -/
def bodyKeys : Hook → List String
  | .create => ["context", "lease"]
  | .update => ["context", "current_lease", "lease"]
  | .onEnd => ["context", "current_lease"]

def members (ctx : Context) (c : Change) : List (String × Json) :=
  ("context", ctx.toJson) :: ((c.current?.map fun l => ("current_lease", l.toJson)).toList ++
    (c.proposed?.map fun l => ("lease", l.toJson)).toList)

theorem bodyJson_eq (ctx : Context) (c : Change) : bodyJson ctx c = .object (members ctx c) := by
  cases c <;> rfl

theorem keys_members (ctx : Context) (c : Change) :
    (members ctx c).map (·.1) = bodyKeys c.hook := by
  cases c <;> rfl

end Delegate

namespace Request

/-- The request that a change is read from, with no snapshot but those of its hook. -/
def ofChange (ctx : Context) (c : Change) : Request := ⟨c.hook, ctx, c.proposed?, c.current?⟩

theorem change_ofChange (ctx : Context) (c : Change) : (ofChange ctx c).change = .ok c := by
  cases c <;> rfl

theorem needed_ok {hook : Hook} {field : String} {given : Option Lease} {l : Lease}
    (there : needed hook field given = .ok l) : given = some l := by
  cases given with
  | none => cases there
  | some lease =>
    cases there
    rfl

theorem change_ok {r : Request} {c : Change} (complete : r.change = .ok c) :
    c.hook = r.hook ∧ (∀ l, c.proposed? = some l → r.lease = some l) ∧
      (∀ l, c.current? = some l → r.currentLease = some l) := by
  obtain ⟨hook, ctx, lease, current⟩ := r
  cases hook with
  | create =>
    obtain ⟨l, there, same⟩ := of_map_ok complete
    subst same
    exact ⟨rfl, fun _ same => same ▸ needed_ok there, nofun⟩
  | update =>
    obtain ⟨old, current, complete⟩ := of_bind_ok complete
    obtain ⟨l, lease, complete⟩ := of_bind_ok complete
    cases complete
    exact ⟨rfl, fun _ same => same ▸ needed_ok lease, fun _ same => same ▸ needed_ok current⟩
  | onEnd =>
    obtain ⟨l, there, same⟩ := of_map_ok complete
    subst same
    exact ⟨rfl, nofun, fun _ same => same ▸ needed_ok there⟩

/-- Nested containers that the attributes of an allocation may have. -/
def room : Nat := 120

theorem exact_of_parse {text : String} {r : Request} (accepted : parse text = .ok r) {l : Lease}
    (given : r.lease = some l ∨ r.currentLease = some l) (floatless : l.Floatless) :
    l.Exact room := by
  have yields : Yields (decoder 127) r := Json.Decoder.yields_of_run (of_mapError_ok accepted)
  obtain ⟨cs, rest, read⟩ := yields
  have made : Made 126 record r := Json.made_of_record read
  simp only [record, Record.required, Record.defaulted, Made] at made
  obtain ⟨_, current, ⟨_, lease, ⟨_, _, ⟨_, _, rfl, _, rfl⟩, _, rfl⟩, fresh, rfl⟩, old, rfl⟩ := made
  have origin : Yields (Json.Decoder.optional Lease.decoder 126) (some l) := by
    rcases given with same | same
    · cases same
      exact fresh.resolve_right (by simp)
    · cases same
      exact old.resolve_right (by simp)
  exact Lease.exact_of_yields (Json.yields_optional origin) floatless

theorem reads_snapshot {l : Lease} (exact : l.Exact room) :
    Reads (Json.Decoder.optional Lease.decoder) 126 l.toJson.chars (some l) :=
  Json.reads_optional (Json.chars_object _) (.inr rfl) exact.reads

theorem lookup_name (h : Hook) : (Hook.all.map fun h => (h.name, h)).lookup h.name = some h := by
  cases h <;> decide

/-- A body with its hook, its members in any order, is a request for the change it was made of. -/
theorem parse_members {ctx : Context} {c : Change} {entries : List (String × Json)}
    (exact : ∀ l ∈ c.snapshots, l.Exact room)
    (order : entries.Perm (("hook", c.hook.toJson) :: Delegate.members ctx c)) :
    parse (Json.object entries).write = .ok (ofChange ctx c) := by
  have keys : (entries.map (·.1)).Perm ("hook" :: Delegate.bodyKeys c.hook) := by
    rw [← Delegate.keys_members ctx c]
    exact order.map _
  have once : ∀ h, ("hook" :: Delegate.bodyKeys h).Nodup := by
    intro h
    cases h <;> decide
  have known : ∀ h, ∀ key ∈ "hook" :: Delegate.bodyKeys h, key ∈ record.names := by
    intro h
    cases h <;> decide
  have stands {e : String × Json}
      (member : e ∈ ("hook", c.hook.toJson) :: Delegate.members ctx c) : e ∈ entries :=
    order.mem_iff.mpr member
  have gives : Gives 126 (Json.texts entries) record (ofChange ctx c) := by
    refine .option (.option (.entry (.entry (.of Request.mk) (stands ?_)
      (Json.reads_choice (lookup_name c.hook))) (stands ?_) ctx.reads) ?_ ?_
      fun l given => reads_snapshot (exact l (Change.proposed_mem given))) ?_ ?_
      fun l given => reads_snapshot (exact l (Change.current_mem given))
    · simp [Hook.toJson]
    · simp [Delegate.members]
    · exact fun l given => stands (by simp [Delegate.members, given])
    · intro absent member
      have listed := keys.mem_iff.mp member
      cases c <;> simp_all [Change.proposed?, Delegate.bodyKeys, Change.hook]
    · exact fun l given => stands (by simp [Delegate.members, given])
    · intro absent member
      have listed := keys.mem_iff.mp member
      cases c <;> simp_all [Change.current?, Delegate.bodyKeys, Change.hook]
  have reads : Reads decoder 127 (Json.object entries).chars (ofChange ctx c) :=
    gives.reads_object (entries.map (·.1)) rfl (by decide) (keys.nodup_iff.mpr (once c.hook))
      fun key member => known c.hook key (keys.mem_iff.mp member)
  rw [parse, Json.Decoder.run_write reads]
  rfl

/-- What is posted for a request, if it is complete. -/
def posted (r : Request) : Except Error String := r.change.map (Delegate.body r.context)

/-- What is posted has the members of its hook and, with the hook itself added at any place, is
accepted as a request with the same context and the same snapshots, for which the same bytes are
posted. -/
theorem wire_round_trip {text : String} {r : Request} {c : Change}
    (accepted : parse text = .ok r) (complete : r.change = .ok c) (floatless : c.Floatless) :
    ∃ members : List (String × Json),
      r.posted = .ok (Json.object members).write ∧
      members.map (·.1) = Delegate.bodyKeys r.hook ∧
      ∀ entries : List (String × Json), entries.Perm (("hook", r.hook.toJson) :: members) →
        ∃ again, parse (Json.object entries).write = .ok again ∧
          again.context = r.context ∧ again.hook = r.hook ∧ again.change = .ok c ∧
          again.posted = r.posted := by
  obtain ⟨hook, proposed, current⟩ := change_ok complete
  have exact : ∀ l ∈ c.snapshots, l.Exact room := by
    intro l member
    refine exact_of_parse accepted ?_ (floatless l member)
    cases c with
    | create lease => exact .inl (List.mem_singleton.mp member ▸ proposed _ rfl)
    | update old lease =>
      rcases List.mem_pair.mp member with same | same
      · exact .inr (same ▸ current _ rfl)
      · exact .inl (same ▸ proposed _ rfl)
    | onEnd old => exact .inr (List.mem_singleton.mp member ▸ current _ rfl)
  have body : r.posted = .ok (Json.object (Delegate.members r.context c)).write := by
    rw [posted, complete, ← Delegate.bodyJson_eq]
    rfl
  refine ⟨Delegate.members r.context c, body, by rw [Delegate.keys_members, hook], ?_⟩
  intro entries order
  have again := change_ofChange r.context c
  refine ⟨ofChange r.context c, parse_members exact (hook ▸ order), rfl, hook, again, ?_⟩
  rw [body, posted, again, ← Delegate.bodyJson_eq]
  rfl

/-- In lists, with a leap second east of where it is counted, a far year and attributes out of
order. -/
theorem wire_round_trip_end :
    let attributes : Table String Json := [("a", .int (-1)), ("z", .list [.null])]
    let lease : Lease := ⟨none, some "n", ⟨17167, 1799, 1000000000⟩, ⟨2932897, 0, 0⟩,
      [⟨"host", 1, 2, "", "", [⟨"h", "n", attributes⟩]⟩]⟩
    let r : Request := ⟨.onEnd, ⟨"u", "p", "a", "r"⟩, none, some lease⟩
    let text := "\x7b\"hook\":\"end\",\"context\":[\"u\",\"p\",\"a\",\"r\"],\"current_lease\":[" ++
      "null,\"n\",\"2016-12-31 23:59:60-00:30\",\"+10000-01-01T00:00:00Z\",[[\"host\",1,2,\"\"," ++
      "\"\",[[\"h\",\"n\",\x7b\"z\":[null],\"a\":-1\x7d]]]]]\x7d"
    parse text = .ok r ∧
      ∃ members : List (String × Json), r.posted = .ok (Json.object members).write ∧
        members.map (·.1) = ["context", "current_lease"] := by
  intro attributes lease r text
  -- Attributes may hold floats, which nothing decides the equality of, so this is evaluated by the
  -- equations of lookups, orders and pairs; the library has these in the modules imported above.
  have accepted : parse text = .ok r := by
    unfold text r lease attributes
    cbv
  have floatless : (Change.onEnd lease).Floatless := by
    intro l member
    cases List.mem_singleton.mp member
    intro r member
    cases List.mem_singleton.mp member
    intro a member
    cases List.mem_singleton.mp member
    intro e member
    rcases List.mem_pair.mp member with same | same
    · exact same ▸ .int (-1)
    · exact same ▸ .list fun x member => List.mem_singleton.mp member ▸ .null
  obtain ⟨members, posted, keys, _⟩ := wire_round_trip accepted rfl floatless
  exact ⟨accepted, members, posted, keys⟩

end Request

end Admission
