import SignerLink.Account
import SignerLink.Backoff
import SignerLink.Connection.Inbox
import SignerLink.Connection.Operation
import SignerLink.Connection.Readiness
import SignerLink.Connection.Release
import SignerLink.PermissionGate
import SignerLink.Transport.Memory
/-!
A provider of hardware wallets: the connection of a session, the permission it has learned of,
what it tracks to connect on its own, and the strands of work under way. A strand runs until it
has to wait; which strand runs next is not decided here.
-/

namespace SignerLink

abbrev StrandId := Nat

inductive Trigger where
  | accountChanged
  | deviceAttached (deviceId : String)
  deriving DecidableEq, Repr

structure Listener where
  wallet : Wallet
  strand : StrandId
  deriving DecidableEq, Repr

structure Tracking where
  account : Account := {}
  epoch : Nat := 0
  completedFor : Option Account := none
  /-- Retries since the last account selection, permitted attachment or success. -/
  retries : Nat := 0
  listener : Option Listener := none
  deriving DecidableEq, Repr

inductive Reply where
  | done
  | answered (yes : Bool)
  | attempt (outcome : ConnectOutcome)
  | operation (result : OperationResult)
  | permission (permission : Permission)
  | devices (answer : DeviceAnswer)
  | found (search : DeviceSearch)
  deriving Repr

inductive HostQuestion where
  | paired (channel : Channel)
  | choose (channel : Channel)
  | discover (wallet : Wallet)
  | matching (wallet : Wallet)
  | isAttached (wallet : Wallet) (deviceId : Option String)
  | check (wallet : Wallet)
  | request (wallet : Wallet)
  deriving DecidableEq, Repr

/-- What callers ask for. Where a wallet may be missing, the selected account's is meant. -/
inductive Request where
  | connect (wallet : Wallet) (deviceId : Option String)
  | disconnect
  | retry
  | makeReady (wallet : Option Wallet) (deviceId : Option String)
  | operate (operation : Operation)
  | checkPermission (wallet : Option Wallet)
  | requestPermission (wallet : Option Wallet)
  | selectAccount (account : Account)
  | plugEvent (event : PlugEvent)
  | shutdown
  | askHost (question : HostQuestion)
  | sleep (milliseconds : Nat)
  | join (strands : List StrandId)
  deriving Repr

inductive Call where
  | attempt (call : AttemptCall)
  | readiness (call : ReadinessCall)
  | disconnect (call : DisconnectCall)
  | operation (call : OperationCall)
  | permission (call : PermissionCall) (reply : Reply) (selection : Option (Channel × Device))
  | accountCheck (epoch : Nat) (call : PermissionCall)
  | attachCheck (epoch : Nat) (deviceId : String) (call : PermissionCall)
  | search (epoch : Nat) (found : DeviceSearch)
  | autoConnect (epoch : Nat) (account : Account) (trigger : Trigger) (call : AttemptCall)
  | host (reply : Reply) (selection : Option (Channel × Device))
  | joining (strands : List StrandId) (reply : Reply)
  deriving Repr

inductive Duty where
  | caller (request : Request)
  | pump
  | forwarder (subscription : SubscriptionId)
  | listener (subscription : SubscriptionId)
  | retry (epoch : Nat) (trigger : Trigger) (due : Nat)
  | watcher (store : Nat) (seen : Option Nat)
  deriving Repr

/-- A part of a provider that outlives the application's hold on it. -/
inductive Share where
  | nothing
  | connection
  | permission
  | whole
  deriving DecidableEq, Repr

def Share.includes (share part : Share) : Bool := share == .whole || share == part

def Request.share : Request → Share
  | .connect _ _ | .disconnect | .retry | .operate _ | .makeReady (some _) _ => .connection
  | .checkPermission (some _) | .requestPermission (some _) => .permission
  | .makeReady none _ | .checkPermission none | .requestPermission none => .whole
  | .selectAccount _ | .plugEvent _ | .shutdown => .whole
  | .askHost _ | .sleep _ | .join _ => .nothing

namespace Duty

def share : Duty → Share
  | .caller request => request.share
  | .pump => .connection
  | .forwarder _ => .nothing
  | .listener _ | .retry _ _ _ | .watcher _ _ => .whole

def isServed : Duty → Bool
  | .caller request => request.share != .nothing
  | _ => false

def isBackground : Duty → Bool
  | .retry _ _ _ | .listener _ => true
  | _ => false

def isOwn : Duty → Bool
  | .retry _ _ _ | .listener _ | .watcher _ _ | .pump => true
  | .caller _ | .forwarder _ => false

end Duty

structure Strand where
  id : StrandId
  duty : Duty
  call : Option (Call × Nat) := none
  deriving Repr

structure AccountStore where
  published : Watched Account
  closed : Bool := false
  deriving DecidableEq, Repr

structure Provider (Bench : Type) where
  host : MemoryHost := {}
  connection : Connection Bench
  permission : PermissionGate := {}
  policy : AutoConnectPolicy := {}
  tracking : Tracking := {}
  stores : List AccountStore := []
  strands : List Strand := []
  nextStrand : StrandId := 0
  now : Nat := 0
  replies : List (StrandId × Reply) := []
  pumpStarted : Bool := false
  held : Bool := true
  /-- The session ends when nobody holds the provider any more. -/
  endsWithHolder : Bool := true

namespace Provider

variable {Bench : Type}

abbrev Step := Progress Call Reply

def isCancelled (provider : Provider Bench) : Bool := provider.connection.cancelled

def setTracking (provider : Provider Bench) (tracking : Tracking) : Provider Bench :=
  { provider with tracking := tracking }

def setConnection (provider : Provider Bench) (connection : Connection Bench) : Provider Bench :=
  { provider with connection := connection }

def setPermission (provider : Provider Bench) (permission : PermissionGate) : Provider Bench :=
  { provider with permission := permission }

def setHost (provider : Provider Bench) (host : MemoryHost) : Provider Bench :=
  { provider with host := host }

/-! Strands. -/

def spawn (provider : Provider Bench) (duty : Duty) : Provider Bench × StrandId :=
  let id := provider.nextStrand
  ({ provider with
      strands := provider.strands ++ [{ id := id, duty := duty }]
      nextStrand := id + 1 },
    id)

def strand? (provider : Provider Bench) (id : StrandId) : Option Strand :=
  provider.strands.find? fun strand => strand.id == id

def isAlive (provider : Provider Bench) (id : StrandId) : Bool :=
  provider.strands.any fun strand => strand.id == id

def put (provider : Provider Bench) (strand : Strand) : Provider Bench :=
  { provider with
    strands := provider.strands.map fun other => if other.id == strand.id then strand else other }

def remove (provider : Provider Bench) (id : StrandId) : Provider Bench :=
  { provider with strands := provider.strands.filter fun strand => strand.id != id }

def startPump (provider : Provider Bench) : Provider Bench × Bool :=
  if provider.pumpStarted then (provider, false)
  else (({ provider with pumpStarted := true }).spawn .pump |>.1, true)

/-- Retries and listeners under way, which shutting down takes away. -/
def pendingTasks (provider : Provider Bench) : Nat :=
  if provider.isCancelled then 0
  else provider.strands.countP fun strand => strand.duty.isBackground

def isListening (provider : Provider Bench) : Bool :=
  !provider.isCancelled && provider.tracking.listener.isSome

def isListener (provider : Provider Bench) (id : StrandId) : Bool :=
  !provider.isCancelled && provider.tracking.listener.any fun listener => listener.strand == id

def wallet? (provider : Provider Bench) : Option Wallet := provider.tracking.account.wallet?

/-! The end of the session. -/

def cancel (provider : Provider Bench) : Provider Bench :=
  { provider with
    connection := provider.connection.cancel
    permission := provider.permission.cancel }

/-- Whether a strand keeps this part of the provider. A caller of a whole provider keeps all. -/
def keeps (provider : Provider Bench) (part : Share) (strand : Strand) : Bool :=
  let share := strand.duty.share
  share.includes part || (provider.endsWithHolder && strand.duty.isServed)

/-- Whether subscribers to the connection state can still be told of changes. -/
def isConnectionKept (provider : Provider Bench) : Bool :=
  provider.held || provider.strands.any (provider.keeps .connection)

def isPermissionKept (provider : Provider Bench) : Bool :=
  provider.held || provider.strands.any (provider.keeps .permission)

def isCallerServed (provider : Provider Bench) : Bool :=
  provider.strands.any fun strand => strand.duty.isServed

variable [AdapterBench Bench]

/-- Ends the session once nobody holds the provider, and closes what nobody can reach. -/
def letGo (provider : Provider Bench) : Provider Bench :=
  if provider.held then provider
  else
    let provider :=
      if provider.endsWithHolder && !provider.isCallerServed && !provider.isCancelled then
        let provider := provider.cancel
        provider.setConnection provider.connection.teardown
      else provider
    if provider.isConnectionKept then provider
    else provider.setConnection provider.connection.closeInbox

def drop (provider : Provider Bench) : Provider Bench := ({ provider with held := false }).letGo

end Provider

end SignerLink
