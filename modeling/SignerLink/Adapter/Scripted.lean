import SignerLink.Adapter.Bench
import SignerLink.Adapter.Json
/-!
Adapters that follow scripts, to rehearse a session. Each adapter takes the next script; once
none are left, adapters answer at once and never fail.
-/

namespace SignerLink

structure AdapterScript where
  createError : Option WalletError := none
  /-- Delays in milliseconds. -/
  connectDelay : Nat := 0
  verifyDelay : Nat := 0
  disconnectDelay : Nat := 0
  connectError : Option AdapterError := none
  disconnectError : Option AdapterError := none
  /-- The answers to verifying, used up in order; then the device is ready. -/
  verify : List AdapterAnswer := []
  live : Bool := true
  emitStart : List Notice := []
  emitEnd : List Notice := []
  deriving Repr

namespace AdapterScript

def answer? (json : Json) : Option AdapterAnswer :=
  match json with
  | .bool ready => some (.ok ready)
  | _ => (AdapterError.ofJson? json).map .error

def ofJson? (json : Json) : Option AdapterScript := do
  let connectError ← json.optionalField? AdapterError.ofJson? "connect_error"
  let disconnectError ← json.optionalField? AdapterError.ofJson? "disconnect_error"
  let verify ← (json.field "verify").items.mapM answer?
  let emitStart ← (json.field "emit_start").items.mapM Notice.ofJson?
  let emitEnd ← (json.field "emit_end").items.mapM Notice.ofJson?
  return {
    createError := WalletError.inField? json "create_error"
    connectDelay := json.naturalOr 0 "connect_delay"
    verifyDelay := json.naturalOr 0 "verify_delay"
    disconnectDelay := json.naturalOr 0 "disconnect_delay"
    connectError := connectError
    disconnectError := disconnectError
    verify := verify
    live := json.boolOr true "live"
    emitStart := emitStart
    emitEnd := emitEnd }

end AdapterScript

structure ScriptedAdapter where
  wallet : Wallet
  token : Token
  script : AdapterScript
  connected : Bool := false
  destroyed : Bool := false
  deriving Repr

structure ScriptedBench where
  scripts : List AdapterScript
  adapters : List ScriptedAdapter := []
  live : Nat := 0
  mostLive : Nat := 0
  calls : List String := []
  deriving Repr

namespace ScriptedBench

def created (bench : ScriptedBench) : Nat := bench.adapters.length

def log (bench : ScriptedBench) (id : AdapterId) (call : String) : ScriptedBench :=
  { bench with calls := bench.calls ++ [toString id ++ ":" ++ call] }

def update (bench : ScriptedBench) (id : AdapterId) (change : ScriptedAdapter → ScriptedAdapter) :
    ScriptedBench :=
  { bench with adapters := bench.adapters.modify id change }

def setConnected (bench : ScriptedBench) (id : AdapterId) (connected : Bool) : ScriptedBench :=
  bench.update id fun adapter => { adapter with connected := connected }

def create (bench : ScriptedBench) (wallet : Wallet) (token : Token) :
    ScriptedBench × Except WalletError AdapterId :=
  let script := bench.scripts.headD {}
  let bench := { bench with scripts := bench.scripts.tail }
  match script.createError with
  | some error => (bench, .error error)
  | none =>
      let live := bench.live + 1
      ({ bench with
          adapters := bench.adapters ++ [{ wallet := wallet, token := token, script := script }]
          live := live
          mostLive := max bench.mostLive live },
        .ok bench.adapters.length)

def isConnected (bench : ScriptedBench) (id : AdapterId) : Bool :=
  bench.adapters[id]?.any fun adapter => adapter.connected && !adapter.destroyed

/-- Every call is logged; the first lowers the count of live adapters. -/
def destroy (bench : ScriptedBench) (id : AdapterId) : ScriptedBench :=
  let bench := bench.log id "destroy"
  if bench.adapters[id]?.any fun adapter => !adapter.destroyed then
    let bench := bench.update id fun adapter => { adapter with destroyed := true }
    { bench with live := bench.live - 1 }
  else bench

def signals (id : AdapterId) (adapter : ScriptedAdapter) (notices : List Notice) : List Signal :=
  notices.map fun notice => ⟨id, adapter.token, notice⟩

def missing : AdapterError := .other "there is no such adapter"

def begin (bench : ScriptedBench) (id : AdapterId) (request : AdapterRequest) :
    ScriptedBench × List Signal × AdapterReply :=
  match bench.adapters[id]? with
  | none => (bench, [], .now (.error missing))
  | some adapter =>
      let script := adapter.script
      match request with
      | .connect deviceId =>
          (bench.log id ("connect(" ++ deviceId ++ ")"), signals id adapter script.emitStart,
            .later script.connectDelay)
      | .verify deviceId =>
          (bench.log id ("verify(" ++ deviceId ++ ")"), [], .later script.verifyDelay)
      | .disconnect => (bench.log id "disconnect", [], .later script.disconnectDelay)

def finish (bench : ScriptedBench) (id : AdapterId) (request : AdapterRequest) :
    ScriptedBench × List Signal × AdapterAnswer :=
  match bench.adapters[id]? with
  | none => (bench, [], .error missing)
  | some adapter =>
      let script := adapter.script
      match request with
      | .connect _ =>
          let sent := signals id adapter script.emitEnd
          match script.connectError with
          | some error => (bench, sent, .error error)
          | none => (bench.setConnected id script.live, sent, .ok true)
      | .verify _ =>
          (bench.update id fun adapter =>
            { adapter with script := { script with verify := script.verify.tail } },
            [], script.verify.headD (.ok true))
      | .disconnect =>
          (bench.setConnected id false, [],
            match script.disconnectError with
            | some error => .error error
            | none => .ok true)

instance : AdapterBench ScriptedBench where
  create := create
  walletOf bench id := bench.adapters[id]?.map ScriptedAdapter.wallet
  isConnected := isConnected
  destroy := destroy
  begin := begin
  finish := finish

end ScriptedBench

end SignerLink
