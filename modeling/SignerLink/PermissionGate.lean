import SignerLink.Device
import SignerLink.Watched
/-!
The permission that a session last learned of. Checks and requests take time; the call that
began last decides, and answers of earlier calls are discarded.
-/

namespace SignerLink

structure PermissionGate where
  published : Watched Permission := { value := .unknown }
  latest : Nat := 0
  cancelled : Bool := false
  deriving DecidableEq, Repr

/-- A call that waits for the host, with what its answer will show. -/
structure PermissionCall where
  number : Nat
  permission : Permission
  deriving DecidableEq, Repr

namespace PermissionGate

def state (gate : PermissionGate) : Permission := gate.published.value

def begin (gate : PermissionGate) (permission : Permission) : PermissionGate × PermissionCall :=
  let number := gate.latest + 1
  ({ gate with latest := number }, ⟨number, permission⟩)

/-- Publishes what a call has learned, unless it was overtaken. -/
def commit (gate : PermissionGate) (call : PermissionCall) : PermissionGate :=
  if gate.cancelled || gate.latest != call.number || gate.state == call.permission then gate
  else { gate with published := gate.published.publish call.permission }

/-- Forgets what was learned and overtakes every call under way. -/
def reset (gate : PermissionGate) : PermissionGate :=
  let (gate, call) := gate.begin .unknown
  gate.commit call

def cancel (gate : PermissionGate) : PermissionGate := { gate with cancelled := true }

end PermissionGate

def Permission.ofGrant (granted : Bool) : Permission := if granted then .granted else .denied

end SignerLink
