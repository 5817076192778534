import SignerLink.Adapter.Bench
/-!
A simulated device and the adapters on it. Connected adapters hear of every change of the
device.
-/

namespace SignerLink

structure SimulatedDevice where
  present : Bool := true
  locked : Bool := false
  openApp : Option String := none
  latency : Nat := 0
  nextFailure : Option AdapterError := none
  listeners : List (AdapterId × Token) := []
  deriving DecidableEq, Repr

structure SimulatedAdapter where
  wallet : Wallet
  token : Token
  connected : Bool := false
  destroyed : Bool := false
  deriving DecidableEq, Repr

def SimulatedAdapter.isConnected (adapter : SimulatedAdapter) : Bool :=
  adapter.connected && !adapter.destroyed

/-- One device with all adapters created for it; an adapter's number is its place. -/
structure SimulatedBench where
  device : SimulatedDevice := {}
  adapters : List SimulatedAdapter := []
  live : Nat := 0
  mostLive : Nat := 0
  deriving DecidableEq, Repr

namespace SimulatedBench

def withApp (app : Option String) : SimulatedBench := { device := { openApp := app } }

def created (bench : SimulatedBench) : Nat := bench.adapters.length

def setAdapter (bench : SimulatedBench) (id : AdapterId) (adapter : SimulatedAdapter) :
    SimulatedBench :=
  { bench with adapters := bench.adapters.set id adapter }

def add (bench : SimulatedBench) (wallet : Wallet) (token : Token) : SimulatedBench × AdapterId :=
  let live := bench.live + 1
  ({ bench with
      adapters := bench.adapters ++ [{ wallet := wallet, token := token }]
      live := live
      mostLive := max bench.mostLive live },
    bench.adapters.length)

def create (bench : SimulatedBench) (wallet : Wallet) (token : Token) :
    SimulatedBench × Except WalletError AdapterId :=
  match wallet.channel? with
  | none => (bench, .error ((WalletError.ofCode .transportMissing).withWallet wallet))
  | some _ =>
      let (bench, id) := bench.add wallet token
      (bench, .ok id)

def isConnected (bench : SimulatedBench) (id : AdapterId) : Bool :=
  match bench.adapters[id]? with
  | none => false
  | some adapter => adapter.isConnected

def forget (bench : SimulatedBench) (id : AdapterId) : SimulatedBench :=
  { bench with
    device := { bench.device with
      listeners := bench.device.listeners.filter fun listener => listener.1 != id } }

/-- Only the first time has an effect. -/
def destroy (bench : SimulatedBench) (id : AdapterId) : SimulatedBench :=
  match bench.adapters[id]? with
  | none => bench
  | some adapter =>
      if adapter.destroyed then bench
      else
        let bench := bench.setAdapter id { adapter with connected := false, destroyed := true }
        { bench.forget id with live := bench.live - 1 }

def gone : AdapterError := .other "adapter has been destroyed"

def failure (adapter : SimulatedAdapter) (code : ErrorCode) : AdapterError :=
  .wallet ((WalletError.ofCode code).withWallet adapter.wallet)

/-- The end of a connect. An injected failure is used up; a destroyed adapter stays off. -/
def finishConnect (bench : SimulatedBench) (id : AdapterId) :
    SimulatedBench × Except AdapterError Unit :=
  match bench.adapters[id]? with
  | none => (bench, .error gone)
  | some adapter =>
      let device := bench.device
      let bench := { bench with device := { device with nextFailure := none } }
      match device.nextFailure with
      | some error => (bench, .error error)
      | none =>
          if !device.present then (bench, .error (failure adapter .deviceDisconnected))
          else if adapter.destroyed then (bench, .error gone)
          else
            let bench := bench.setAdapter id { adapter with connected := true }
            ({ bench with
                device := { bench.device with
                  listeners := bench.device.listeners ++ [(id, adapter.token)] } },
              .ok ())

def readiness (device : SimulatedDevice) (adapter : SimulatedAdapter) : AdapterAnswer :=
  if !device.present then .error (failure adapter .deviceDisconnected)
  else if device.locked then .error (failure adapter .deviceLocked)
  else
    match adapter.wallet.expectedApp? with
    | none => .ok true
    | some expected =>
        match device.openApp with
        | none => .error (failure adapter .appClosed)
        | some app =>
            if app = expected then .ok true
            else
              .error (.wallet (((WalletError.ofCode .wrongApp).withWallet
                adapter.wallet).withField "appName" (.string app)))

def readinessOf (bench : SimulatedBench) (id : AdapterId) : AdapterAnswer :=
  match bench.adapters[id]? with
  | none => .error gone
  | some adapter => readiness bench.device adapter

/-- Verifying connects first unless the adapter is connected. -/
def begin (bench : SimulatedBench) (id : AdapterId) (request : AdapterRequest) :
    SimulatedBench × AdapterReply :=
  match bench.adapters[id]? with
  | none => (bench, .now (.error gone))
  | some adapter =>
      let connect : AdapterReply :=
        if adapter.destroyed then .now (.error gone) else .later bench.device.latency
      match request with
      | .connect _ => (bench, connect)
      | .verify _ =>
          if adapter.isConnected then (bench, .now (bench.readinessOf id)) else (bench, connect)
      | .disconnect =>
          ((bench.setAdapter id { adapter with connected := false }).forget id, .now (.ok true))

def finish (bench : SimulatedBench) (id : AdapterId) (request : AdapterRequest) :
    SimulatedBench × AdapterAnswer :=
  match request with
  | .disconnect => (bench, .ok true)
  | .connect _ =>
      let (bench, result) := bench.finishConnect id
      (bench, result.map fun _ => true)
  | .verify _ =>
      match bench.finishConnect id with
      | (bench, .error error) => (bench, .error error)
      | (bench, .ok _) => (bench, bench.readinessOf id)

instance : AdapterBench SimulatedBench where
  create := create
  walletOf bench id := bench.adapters[id]?.map SimulatedAdapter.wallet
  isConnected := isConnected
  destroy := destroy
  begin bench id request :=
    let (bench, reply) := bench.begin id request
    (bench, [], reply)
  finish bench id request :=
    let (bench, answer) := bench.finish id request
    (bench, [], answer)

/-! What happens to the device, with the signals that its adapters send. -/

def broadcast (bench : SimulatedBench) (notice : Notice) : List Signal :=
  bench.device.listeners.map fun listener => ⟨listener.1, listener.2, notice⟩

def setDevice (bench : SimulatedBench) (device : SimulatedDevice) : SimulatedBench :=
  { bench with device := device }

def lock (bench : SimulatedBench) : SimulatedBench × List Signal :=
  (bench.setDevice { bench.device with locked := true },
    bench.broadcast { kind := .deviceLocked, error := some (WalletError.ofCode .deviceLocked) })

def unlock (bench : SimulatedBench) : SimulatedBench × List Signal :=
  (bench.setDevice { bench.device with locked := false }, [])

def openApp (bench : SimulatedBench) (app : String) : SimulatedBench × List Signal :=
  (bench.setDevice { bench.device with openApp := some app },
    bench.broadcast { kind := .appChanged, app := some app })

def closeApp (bench : SimulatedBench) : SimulatedBench × List Signal :=
  (bench.setDevice { bench.device with openApp := none }, bench.broadcast { kind := .appNotOpen })

/-- Pulls the cable, which the adapters hear of, or puts it back. -/
def setPresent (bench : SimulatedBench) (present : Bool) : SimulatedBench × List Signal :=
  (bench.setDevice { bench.device with present := present },
    if present then [] else bench.broadcast { kind := .disconnected })

def setLatency (bench : SimulatedBench) (milliseconds : Nat) : SimulatedBench :=
  bench.setDevice { bench.device with latency := milliseconds }

def failNextConnect (bench : SimulatedBench) (error : AdapterError) : SimulatedBench :=
  bench.setDevice { bench.device with nextFailure := some error }

end SimulatedBench

end SignerLink
