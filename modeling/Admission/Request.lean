import Admission.Context
import Admission.Hook
/-!
A hook request as it is submitted: the hook, the context and the lease snapshots. Unknown keys
are refused. `change` picks the snapshots that the hook needs.
-/

namespace Admission

structure Request where
  hook : Hook
  context : Context
  lease : Option Lease := none
  currentLease : Option Lease := none

namespace Request

def record : Record Json.Decoder Request :=
  Record.of Request.mk
    |>.required "hook" Hook.decoder
    |>.required "context" Context.decoder
    |>.defaulted "lease" (Json.Decoder.optional Lease.decoder) none
    |>.defaulted "current_lease" (Json.Decoder.optional Lease.decoder) none

def decoder : Json.Decoder Request := Json.record (.ofName "HookRequest" true record.size) record

def parse (s : String) : Except Error Request :=
  (decoder.run s).mapError fun fault =>
    .invalidRequest ("invalid hook request: " ++ fault.message)

def needed (hook : Hook) (field : String) : Option Lease → Except Error Lease
  | some lease => .ok lease
  | none => .error (.invalidRequest (hook.label ++ " request requires " ++ field))

/-- An update lacks its current lease before it lacks its proposed one. -/
def change (r : Request) : Except Error Change :=
  match r.hook with
  | .create => (needed r.hook "lease" r.lease).map .create
  | .update => do
      let current ← needed r.hook "current_lease" r.currentLease
      let lease ← needed r.hook "lease" r.lease
      .ok (.update current lease)
  | .onEnd => (needed r.hook "current_lease" r.currentLease).map .onEnd

end Request

end Admission
