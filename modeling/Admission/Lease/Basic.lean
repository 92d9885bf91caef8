import Admission.Json.Record
import Admission.Time.Reader
/-!
Lease snapshots: a window of time and the reservations made for it, each with the resources
that were allocated. `toJson` and `decoder` are their wire form; absent names are left out,
and fields that may be missing have a default.
-/

namespace Admission

open Time (Instant Span)

/-- A resource assigned to a reservation, with attributes of any kind. -/
structure Allocation where
  id : String
  hostname : String
  extra : Table String Json := []
  deriving BEq

structure Reservation where
  resourceType : String
  min : Nat
  max : Nat
  hypervisorProperties : String := ""
  resourceProperties : String := ""
  allocations : List Allocation := []
  deriving BEq

structure Lease where
  id : Option String := none
  name : Option String := none
  startDate : Instant
  endDate : Instant
  reservations : List Reservation := []
  deriving BEq

namespace Allocation

def withExtra (a : Allocation) (key : String) (value : Json) : Allocation :=
  { a with extra := a.extra.insert Text.order key value }

def toJson (a : Allocation) : Json :=
  .object [("id", .text a.id), ("hypervisor_hostname", .text a.hostname),
    ("extra", .object a.extra)]

def record : Record Json.Decoder Allocation :=
  Record.of Allocation.mk
    |>.required "id" Json.Decoder.text
    |>.required "hypervisor_hostname" Json.Decoder.text
    |>.defaulted "extra" (Json.Decoder.table Json.Decoder.json) []

def decoder : Json.Decoder Allocation :=
  Json.record (.ofName "Allocation" false record.size) record

end Allocation

namespace Reservation

def withAllocation (r : Reservation) (a : Allocation) : Reservation :=
  { r with allocations := r.allocations ++ [a] }

def toJson (r : Reservation) : Json :=
  .object [("resource_type", .text r.resourceType), ("min", .int r.min), ("max", .int r.max),
    ("hypervisor_properties", .text r.hypervisorProperties),
    ("resource_properties", .text r.resourceProperties),
    ("allocations", .list (r.allocations.map Allocation.toJson))]

def record : Record Json.Decoder Reservation :=
  Record.of Reservation.mk
    |>.required "resource_type" Json.Decoder.text
    |>.required "min" Json.Decoder.word32
    |>.required "max" Json.Decoder.word32
    |>.defaulted "hypervisor_properties" Json.Decoder.text ""
    |>.defaulted "resource_properties" Json.Decoder.text ""
    |>.defaulted "allocations" (Json.Decoder.list Allocation.decoder) []

def decoder : Json.Decoder Reservation :=
  Json.record (.ofName "Reservation" false record.size) record

end Reservation

namespace Lease

def withReservation (l : Lease) (r : Reservation) : Lease :=
  { l with reservations := l.reservations ++ [r] }

/-- Not positive for a malformed window. -/
def duration (l : Lease) : Span := l.endDate.since l.startDate

def allocationCount (l : Lease) : Nat := (l.reservations.flatMap (·.allocations)).length

def named (name : String) : Option String → List (String × Json)
  | none => []
  | some s => [(name, .text s)]

def toJson (l : Lease) : Json :=
  .object (named "id" l.id ++ named "name" l.name ++
    [("start_date", .text l.startDate.wire), ("end_date", .text l.endDate.wire),
      ("reservations", .list (l.reservations.map Reservation.toJson))])

def instant : Json.Decoder Instant :=
  Json.Decoder.parsed "an RFC 3339 formatted date and time string" fun s =>
    (Instant.parse s).mapError Time.Fault.message

def record : Record Json.Decoder Lease :=
  Record.of Lease.mk
    |>.defaulted "id" (Json.Decoder.optional Json.Decoder.text) none
    |>.defaulted "name" (Json.Decoder.optional Json.Decoder.text) none
    |>.required "start_date" instant
    |>.required "end_date" instant
    |>.defaulted "reservations" (Json.Decoder.list Reservation.decoder) []

def decoder : Json.Decoder Lease := Json.record (.ofName "Lease" false record.size) record

end Lease

end Admission
