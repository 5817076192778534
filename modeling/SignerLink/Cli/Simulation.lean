import SignerLink.Adapter.Simulated
import SignerLink.Cli.Command
import SignerLink.Cli.Layout
import SignerLink.Provider.Clock
import SignerLink.Settings.Basic
import SignerLink.State.Json
/-!
Scenarios played through on a simulated device, with the connection state after every step.
-/

namespace SignerLink

namespace Cli

inductive Failure where
  | usage (error : UsageError)
  | invalid (field reason : String)
  | payload
  | settings (error : SettingsError)
  | unprintable
  | simulation (scenario : Scenario) (expected : String)
  | input
  deriving DecidableEq, Repr

namespace Failure

def exitCode : Failure → Nat
  | .usage error => error.exitCode
  | .invalid _ _ | .payload => 2
  | .settings _ | .unprintable => 3
  | .simulation _ _ => 4
  | .input => 1

def message? : Failure → Option String
  | .usage error => error.message?
  | .invalid field reason => some ("Invalid value for " ++ field ++ ": " ++ reason)
  | .settings error => error.message?
  | .simulation scenario expected =>
      some ("Simulation '" ++ scenario.name ++ "' did not reach " ++ expected)
  | .payload | .unprintable | .input => none

end Failure

structure SimulationStep where
  action : String
  state : ConnectionState
  note : Option String := none
  deriving DecidableEq, Repr

structure Simulation where
  scenario : Scenario
  wallet : Wallet
  channel : Channel
  device : Device
  provider : Provider SimulatedBench
  steps : List SimulationStep := []

namespace Simulation

def accountAddress : String := "0x5aeda56215b167893e80b4fe645ba6d5bab767de"

def raceLatency : Nat := 150

def start (scenario : Scenario) (wallet : Wallet) (app : Option String)
    (policy : AutoConnectPolicy) : Except Failure Simulation :=
  match wallet.channel?, wallet.filters with
  | none, _ =>
      .error (.invalid "wallet" (wallet.displayName ++ " has no USB transport to simulate"))
  | some _, [] =>
      .error (.invalid "wallet" ("no device filters known for " ++ wallet.displayName))
  | some channel, filter :: _ =>
      let device : Device :=
        ⟨filter.vendorId, filter.productId.getD 1, some ("Simulated " ++ wallet.displayName)⟩
      let host : MemoryHost := {}
      let provider : Provider SimulatedBench :=
        { host := host.pair channel device
          connection := { bench := SimulatedBench.withApp app }
          policy := policy }
      .ok {
        scenario := scenario
        wallet := wallet
        channel := channel
        device := device
        provider := provider.startPump.1.rest }

def state (simulation : Simulation) : ConnectionState := simulation.provider.connection.state

def setProvider (simulation : Simulation) (provider : Provider SimulatedBench) : Simulation :=
  { simulation with provider := provider }

def record (simulation : Simulation) (action : String) (note : Option String) : Simulation :=
  { simulation with
    steps := simulation.steps ++ [⟨action, simulation.state, note⟩] }

def deviceNote (simulation : Simulation) : Option String :=
  simulation.provider.connection.session.deviceId.map ("device " ++ ·)

def fail {α : Type} (simulation : Simulation) (expected : String) : Except Failure α :=
  .error (.simulation simulation.scenario expected)

def request (simulation : Simulation) (request : Request) : Simulation × Option Reply :=
  let (provider, reply) := simulation.provider.call request
  (simulation.setProvider provider, reply)

def isYes : Option Reply → Bool
  | some (.answered yes) => yes
  | _ => false

def outcome? : Option Reply → Option ConnectOutcome
  | some (.attempt outcome) => some outcome
  | _ => none

def onDevice (simulation : Simulation)
    (change : SimulatedBench → SimulatedBench × List Signal) : Simulation :=
  simulation.setProvider
    (simulation.provider.setConnection (simulation.provider.connection.onBench change))

def onHost (simulation : Simulation) (change : MemoryHost → MemoryHost) : Simulation :=
  simulation.setProvider (simulation.provider.setHost (change simulation.provider.host))

def reach (simulation : Simulation) (expected : String) (reached : ConnectionState → Bool) :
    Except Failure Simulation :=
  let simulation := simulation.setProvider simulation.provider.rest
  if reached simulation.state then .ok simulation else simulation.fail expected

def selectAccount (simulation : Simulation) : Simulation :=
  let account := Account.ofWallet simulation.wallet accountAddress
  let (simulation, _) := simulation.request (.selectAccount account)
  simulation.record "select hardware account" simulation.deviceNote

def readyNote (ready : Bool) : Option String := some (if ready then "ready" else "not ready")

def verify (simulation : Simulation) : Simulation × Bool :=
  let (simulation, reply) := simulation.request (.makeReady none none)
  (simulation.record "verify device" (readyNote (isYes reply)), isYes reply)

def outcomeNote : Option ConnectOutcome → String
  | some .connected => "connected"
  | some .superseded => "superseded by a newer attempt"
  | some .aborted | none => "aborted"
  | some (.failed error) => "failed: " ++ error.message

/-! The scenarios. -/

def happy (wallet : Wallet) (policy : AutoConnectPolicy) : Except Failure Simulation := do
  let simulation ← start .happy wallet wallet.expectedApp? policy
  let (simulation, ready) := simulation.selectAccount.verify
  if !ready then simulation.fail "ready"
  else
    let signature := "signed by " ++ wallet.displayName
    match simulation.request (.operate { answer := .ok (.string signature) }) with
    | (simulation, some (.operation ⟨_, .ok (.string note)⟩)) =>
        let simulation := simulation.record "sign request" (some note)
        let (simulation, _) := simulation.request .disconnect
        return simulation.record "disconnect" none
    | (simulation, _) => simulation.fail "a signature"

def locked (wallet : Wallet) (policy : AutoConnectPolicy) : Except Failure Simulation := do
  let simulation ← start .locked wallet wallet.expectedApp? policy
  let (simulation, ready) := (simulation.onDevice (·.lock)).selectAccount.verify
  if ready || !simulation.state.isFailed then simulation.fail "a locked error"
  else
    let simulation := (simulation.onDevice (·.unlock)).record "unlock device" none
    let (simulation, reply) := simulation.request .retry
    let simulation := simulation.record "retry" (readyNote (isYes reply))
    if isYes reply then return simulation else simulation.fail "ready after unlock"

def wrongApp (wallet : Wallet) (policy : AutoConnectPolicy) : Except Failure Simulation := do
  match wallet.expectedApp? with
  | none =>
      .error (.invalid "wallet" (wallet.displayName ++ " has no on-device app to switch"))
  | some app =>
      let simulation ← start .wrongApp wallet (some "Bitcoin") policy
      let (simulation, ready) := simulation.selectAccount.verify
      if ready then simulation.fail "an awaiting-app state"
      else
        let simulation ←
          (simulation.onDevice (·.openApp app)).reach "ready" fun state => state = .ready
        return simulation.record ("open " ++ app ++ " app") none

def unplug (wallet : Wallet) (policy : AutoConnectPolicy) : Except Failure Simulation := do
  let simulation ← start .unplug wallet wallet.expectedApp? policy
  let (simulation, ready) := simulation.selectAccount.verify
  if !ready then simulation.fail "ready"
  else
    let pulled := (simulation.onDevice (·.setPresent false)).onHost
      (·.unplug simulation.channel simulation.device)
    let simulation ← pulled.reach "disconnected" fun state => state = .disconnected
    let simulation := simulation.record "pull cable" none
    let restored := (simulation.onDevice (·.setPresent true)).onHost
      (·.plugIn simulation.channel simulation.device)
    let simulation ← restored.reach "reconnected" ConnectionState.isConnected
    return simulation.record "reinsert cable" simulation.deviceNote

/-- Two attempts overlap; the later one has to win. -/
def race (wallet : Wallet) (policy : AutoConnectPolicy) : Except Failure Simulation := do
  let simulation ← start .race wallet wallet.expectedApp? policy
  let simulation := simulation.onDevice fun bench => (bench.setLatency raceLatency, [])
  let first := simulation.device
  let second : Device := ⟨first.vendorId, first.productId + 1, none⟩
  let simulation := simulation.onHost (·.pair simulation.channel second)
  let (provider, attempt) := simulation.provider.start (.connect wallet (some first.id))
  let (simulation, _) := (simulation.setProvider provider).request (.sleep 1)
  let (simulation, reply) := simulation.request (.connect wallet (some second.id))
  let (simulation, _) := simulation.request (.join [attempt])
  let later := outcome? reply
  let earlier := outcome? (simulation.provider.reply? attempt)
  let simulation :=
    (simulation.record ("connect device " ++ first.id) (some (outcomeNote earlier))).record
      ("connect device " ++ second.id) (some (outcomeNote later))
  let bench := simulation.provider.connection.bench
  if earlier = some .superseded && later.any ConnectOutcome.isConnected && bench.mostLive ≤ 1 then
    return simulation
  else simulation.fail "a single winning connection"

def run (scenario : Scenario) (wallet : Wallet) (policy : AutoConnectPolicy) :
    Except Failure Simulation :=
  match scenario with
  | .happy => happy wallet policy
  | .locked => locked wallet policy
  | .wrongApp => wrongApp wallet policy
  | .unplug => unplug wallet policy
  | .race => race wallet policy

/-! The report. -/

def created (simulation : Simulation) : Nat := simulation.provider.connection.bench.created

def mostLive (simulation : Simulation) : Nat := simulation.provider.connection.bench.mostLive

def document (simulation : Simulation) : Json :=
  let steps := simulation.steps.map fun step =>
    Json.object
      ([("action", .string step.action), ("state", step.state.document)]
        ++ step.note.toList.map fun note => ("note", .string note))
  .object [("scenario", .string simulation.scenario.name),
    ("wallet", simulation.wallet.toJson), ("steps", .array steps),
    ("adaptersCreated", Json.natural simulation.created),
    ("maxLiveAdapters", Json.natural simulation.mostLive)]

def lines (color : Bool) (simulation : Simulation) : String :=
  let rows := simulation.steps.mapIdx fun index step =>
    [toString (index + 1), step.action, step.state.text, step.note.getD ""]
  let last := (simulation.steps.getLast?.map fun step => stateLabel color step.state).getD ""
  String.intercalate "\n"
    [simulation.scenario.name ++ " on " ++ simulation.wallet.displayName,
      box ["#", "Action", "State", "Note"] rows,
      pairLines [("final state", last), ("adapters created", toString simulation.created),
        ("max live adapters", toString simulation.mostLive)]]

end Simulation

end Cli

end SignerLink
