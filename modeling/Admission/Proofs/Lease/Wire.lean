import Admission.Context
import Admission.Lease.Basic
import Admission.Proofs.Json.Record
import Admission.Proofs.Time.Wire
/-!
Leases and contexts on the wire. Whatever was read is written such that it is read as itself, as
long as no attribute of an allocation holds a double.
-/

namespace Admission

open Json (Gives Made Reads Yields)
open Time (Instant)

/-! Allocations. -/

namespace Allocation

def Floatless (a : Allocation) : Prop := ∀ e ∈ a.extra, e.2.Floatless

/-- What comes back from the wire where attributes may open `room` more containers. -/
def Exact (room : Nat) (a : Allocation) : Prop := Json.Exact (room + 1) (.object a.extra)

theorem Exact.reads {room : Nat} {a : Allocation} (exact : a.Exact room) :
    Reads decoder (room + 2) a.toJson.chars a := by
  obtain ⟨id, hostname, extra⟩ := a
  have table : Reads (Json.Decoder.table Json.Decoder.json) (room + 1)
      (Json.object extra).chars extra := by
    cases exact with
    | object ascending each =>
      rw [Json.chars_object]
      exact Json.reads_table extra ascending fun e member => (each e member).reads
  refine Gives.reads_object ["id", "hypervisor_hostname", "extra"]
    (.entry (.entry (.entry (.of Allocation.mk) ?_ (Json.reads_text id)) ?_
      (Json.reads_text hostname)) ?_ table) rfl (by decide) (by decide) (by decide)
  all_goals simp

theorem exact_of_yields {room : Nat} {a : Allocation} (yields : Yields (decoder (room + 2)) a)
    (floatless : a.Floatless) : a.Exact room := by
  obtain ⟨cs, rest, read⟩ := yields
  have made := Json.made_of_record read
  simp only [record, Record.required, Record.defaulted, Made] at made
  obtain ⟨_, extra, ⟨_, hostname, ⟨_, id, rfl, _, rfl⟩, _, rfl⟩, origin, rfl⟩ := made
  rcases origin with yields | same
  · obtain ⟨ascending, each⟩ := Json.yields_table yields
    refine .object ascending ?_
    intro e member
    obtain ⟨_, _, value⟩ := each e member
    exact Json.exact_of_json value (floatless e member)
  · cases same
    exact .object .nil (by simp)

end Allocation

/-! Reservations. -/

namespace Reservation

def Floatless (r : Reservation) : Prop := ∀ a ∈ r.allocations, a.Floatless

structure Exact (room : Nat) (r : Reservation) : Prop where
  min : r.min < UInt32.size
  max : r.max < UInt32.size
  allocations : ∀ a ∈ r.allocations, a.Exact room

theorem Exact.reads {room : Nat} {r : Reservation} (exact : r.Exact room) :
    Reads decoder (room + 4) r.toJson.chars r := by
  obtain ⟨resourceType, min, max, hypervisor, resource, allocations⟩ := r
  have small : UInt32.size ≤ Json.wordLimit := by decide
  have list : Reads (Json.Decoder.list Allocation.decoder) (room + 3)
      (Json.list (allocations.map Allocation.toJson)).chars allocations :=
    Json.reads_objects fun a member => (exact.allocations a member).reads
  refine Gives.reads_object ["resource_type", "min", "max", "hypervisor_properties",
      "resource_properties", "allocations"]
    (.entry (.entry (.entry (.entry (.entry (.entry (.of Reservation.mk) ?_
      (Json.reads_text resourceType)) ?_ (Json.reads_natural small exact.min)) ?_
      (Json.reads_natural small exact.max)) ?_ (Json.reads_text hypervisor)) ?_
      (Json.reads_text resource)) ?_ list) rfl (by decide) (by decide) (by decide)
  all_goals simp

theorem exact_of_yields {room : Nat} {r : Reservation} (yields : Yields (decoder (room + 4)) r)
    (floatless : r.Floatless) : r.Exact room := by
  obtain ⟨cs, rest, read⟩ := yields
  have made := Json.made_of_record read
  simp only [record, Record.required, Record.defaulted, Made] at made
  obtain ⟨_, allocations, ⟨_, resource, ⟨_, hypervisor, ⟨_, max, ⟨_, min, ⟨_, resourceType, rfl, _,
    rfl⟩, least, rfl⟩, most, rfl⟩, _, rfl⟩, _, rfl⟩, origin, rfl⟩ := made
  refine ⟨Json.yields_natural (least.resolve_right nofun),
    Json.yields_natural (most.resolve_right nofun), fun a member => ?_⟩
  rcases origin with yields | same
  · exact Allocation.exact_of_yields (Json.yields_list yields a member) (floatless a member)
  · cases same
    cases member

end Reservation

/-! Leases. -/

namespace Lease

def Floatless (l : Lease) : Prop := ∀ r ∈ l.reservations, r.Floatless

structure Exact (room : Nat) (l : Lease) : Prop where
  startDate : l.startDate.Proper
  endDate : l.endDate.Proper
  reservations : ∀ r ∈ l.reservations, r.Exact room

/-- A name that is absent is left out. -/
def keys (id name : Bool) : List String :=
  (if id then ["id"] else []) ++ (if name then ["name"] else []) ++
    ["start_date", "end_date", "reservations"]

theorem reads_instant {room : Nat} {t : Instant} (proper : t.Proper) :
    Reads instant room (Json.text t.wire).chars t :=
  Json.reads_parsed (by rw [Instant.parse_wire proper]; rfl)

theorem Exact.reads {room : Nat} {l : Lease} (exact : l.Exact room) :
    Reads decoder (room + 6) l.toJson.chars l := by
  obtain ⟨id, name, startDate, endDate, reservations⟩ := l
  have once : ∀ id name : Bool, (keys id name).Nodup := by decide
  have known : ∀ id name : Bool, ∀ key ∈ keys id name, key ∈ record.names := by decide
  have list : Reads (Json.Decoder.list Reservation.decoder) (room + 5)
      (Json.list (reservations.map Reservation.toJson)).chars reservations :=
    Json.reads_objects fun r member => (exact.reservations r member).reads
  have given (s : String) : Reads (Json.Decoder.optional Json.Decoder.text) (room + 5)
      (Json.text s).chars (some s) :=
    Json.reads_optional (by rw [Json.chars, Json.textChars]) (.inl rfl) (Json.reads_text s)
  refine Gives.reads_object (keys id.isSome name.isSome)
    (.entry (.entry (.entry (.option (.option (.of Lease.mk) ?_ ?_ fun s _ => given s) ?_ ?_
      fun s _ => given s) ?_ (reads_instant exact.startDate)) ?_ (reads_instant exact.endDate)) ?_
      list) ?_ (by decide) (once _ _) (known _ _)
  all_goals cases id <;> cases name <;> simp [named, keys]

theorem exact_of_yields {room : Nat} {l : Lease} (yields : Yields (decoder (room + 6)) l)
    (floatless : l.Floatless) : l.Exact room := by
  obtain ⟨cs, rest, read⟩ := yields
  have made := Json.made_of_record read
  simp only [record, Record.required, Record.defaulted, Made] at made
  obtain ⟨_, reservations, ⟨_, endDate, ⟨_, startDate, ⟨_, name, ⟨_, id, rfl, _, rfl⟩, _, rfl⟩,
    first, rfl⟩, last, rfl⟩, origin, rfl⟩ := made
  have proper {t : Instant} (yields : Yields (instant (room + 5)) t) : t.Proper := by
    obtain ⟨s, parses⟩ := Json.yields_parsed yields
    exact Instant.proper_of_parse (of_mapError_ok parses)
  refine ⟨proper (first.resolve_right nofun), proper (last.resolve_right nofun),
    fun r member => ?_⟩
  rcases origin with yields | same
  · exact Reservation.exact_of_yields (Json.yields_list yields r member) (floatless r member)
  · cases same
    cases member

end Lease

/-! Contexts. -/

theorem Context.reads {room : Nat} (c : Context) : Reads decoder (room + 1) c.toJson.chars c := by
  obtain ⟨userId, projectId, authUrl, regionName⟩ := c
  refine Gives.reads_object ["user_id", "project_id", "auth_url", "region_name"]
    (.entry (.entry (.entry (.entry (.of Context.mk) ?_ (Json.reads_text userId)) ?_
      (Json.reads_text projectId)) ?_ (Json.reads_text authUrl)) ?_ (Json.reads_text regionName))
    rfl (by decide) (by decide) (by decide)
  all_goals simp [fields]

end Admission
