import SignerLink.Adapter.Bench
import SignerLink.Progress
import SignerLink.Watched
/-!
The connection of a session: at most one adapter, the state that its subscribers see, and the
rule that the latest attempt wins. Every attempt has a token; a step of an attempt whose token
is no longer the session's is interrupted.
-/

namespace SignerLink

structure Session where
  /-- The latest attempt, while it runs or owns the adapter. -/
  token : Option Token := none
  adapter : Option AdapterId := none
  connecting : Bool := false
  wallet : Option Wallet := none
  deviceId : Option String := none
  appName : Option String := none
  deriving DecidableEq, Repr

structure Connection (Bench : Type) where
  bench : Bench
  session : Session := {}
  published : Watched ConnectionState := { value := .disconnected }
  lastToken : Token := 0
  cancelled : Bool := false
  inbox : List Signal := []
  inboxOpen : Bool := true

inductive ConnectOutcome where
  | connected
  | superseded
  | aborted
  | failed (error : WalletError)
  deriving DecidableEq, Repr

namespace ConnectOutcome

def name : ConnectOutcome → String
  | .connected => "connected"
  | .superseded => "superseded"
  | .aborted => "aborted"
  | .failed _ => "failed"

def isConnected : ConnectOutcome → Bool
  | .connected => true
  | _ => false

def error? : ConnectOutcome → Option WalletError
  | .failed error => some error
  | _ => none

end ConnectOutcome

namespace Connection

variable {Bench : Type}

def state (connection : Connection Bench) : ConnectionState := connection.published.value

def setSession (connection : Connection Bench) (session : Session) : Connection Bench :=
  { connection with session := session }

/-- Publishes the next state if the event changes it. -/
def publish (connection : Connection Bench) (event : StateEvent) : Connection Bench :=
  match transition connection.state event connection.session.connecting with
  | none => connection
  | some next => { connection with published := connection.published.publish next }

def deliver (connection : Connection Bench) (signals : List Signal) : Connection Bench :=
  if connection.inboxOpen then { connection with inbox := connection.inbox ++ signals }
  else connection

/-- Why a step of this attempt may not touch the session. -/
def interruption? (connection : Connection Bench) (token : Token) : Option ConnectOutcome :=
  if connection.cancelled then some .aborted
  else if connection.session.token ≠ some token then some .superseded
  else none

def allocate (connection : Connection Bench) : Connection Bench × Token :=
  let token := connection.lastToken + 1
  ({ connection with lastToken := token }, token)

variable [AdapterBench Bench]

def isAdapterConnected (connection : Connection Bench) : Bool :=
  connection.session.adapter.any (AdapterBench.isConnected connection.bench)

def isBusy (connection : Connection Bench) : Bool :=
  connection.session.connecting || connection.isAdapterConnected

def destroy (connection : Connection Bench) (adapter : AdapterId) : Connection Bench :=
  { connection with bench := AdapterBench.destroy connection.bench adapter }

def releaseAdapter (connection : Connection Bench) : Connection Bench :=
  match connection.session.adapter with
  | none => connection
  | some adapter =>
      (connection.destroy adapter).setSession { connection.session with adapter := none }

/-- Destroys an adapter, and forgets it if it is the session's. -/
def discard (connection : Connection Bench) (adapter : AdapterId) : Connection Bench :=
  if connection.session.adapter = some adapter then
    (connection.destroy adapter).setSession { connection.session with adapter := none }
  else connection.destroy adapter

def ask (connection : Connection Bench) (adapter : AdapterId) (request : AdapterRequest) :
    Connection Bench × AdapterReply :=
  let (bench, signals, reply) := AdapterBench.ask connection.bench adapter request
  (({ connection with bench := bench }).deliver signals, reply)

def await (connection : Connection Bench) (adapter : AdapterId) (request : AdapterRequest) :
    Connection Bench × AdapterAnswer :=
  let (bench, signals, answer) := AdapterBench.finish connection.bench adapter request
  (({ connection with bench := bench }).deliver signals, answer)

end Connection

end SignerLink
