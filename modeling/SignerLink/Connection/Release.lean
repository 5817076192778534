import SignerLink.Connection.Basic
/-!
Letting go of the device: on request, when the device is lost, when the session is reset, and
when it ends.
-/

namespace SignerLink

structure DisconnectCall where
  token : Token
  adapter : AdapterId
  deriving DecidableEq, Repr

namespace Connection

variable {Bench : Type} [AdapterBench Bench]

abbrev DisconnectProgress := Progress DisconnectCall Unit

/-- The last step of a disconnect, unless a newer attempt has taken over. -/
def finishDisconnect (connection : Connection Bench) (token : Token) : Connection Bench :=
  if connection.session.token ≠ some token then connection
  else
    let connection := connection.setSession
      { connection.session with
        token := none
        connecting := false
        wallet := none
        deviceId := none
        appName := none }
    if connection.cancelled then connection else connection.publish .disconnected

/-- The adapter has let go of its device, or failed to; either way it is destroyed. -/
def disconnectAnswered (connection : Connection Bench) (call : DisconnectCall) :
    Connection Bench :=
  (connection.discard call.adapter).finishDisconnect call.token

/-- Lets go of the device. Attempts under way are superseded. -/
def disconnect (connection : Connection Bench) : Connection Bench × DisconnectProgress :=
  let (connection, token) := connection.allocate
  let connection := connection.setSession { connection.session with token := some token }
  match connection.session.adapter with
  | none => (connection.finishDisconnect token, .finished ())
  | some adapter =>
      let call : DisconnectCall := ⟨token, adapter⟩
      match connection.ask adapter .disconnect with
      | (connection, .later milliseconds) => (connection, .waiting call milliseconds)
      | (connection, .now _) => (connection.disconnectAnswered call, .finished ())

def resumeDisconnect (connection : Connection Bench) (call : DisconnectCall) :
    Connection Bench × DisconnectProgress :=
  let (connection, _) := connection.await call.adapter .disconnect
  (connection.disconnectAnswered call, .finished ())

/-- Drops everything without asking the device. -/
def reset (connection : Connection Bench) : Connection Bench :=
  (connection.releaseAdapter.setSession {}).publish .disconnected

/-- Drops the adapter at the end of the session. Publishes nothing. -/
def teardown (connection : Connection Bench) : Connection Bench :=
  let connection := connection.releaseAdapter
  connection.setSession { connection.session with token := none, connecting := false }

def cancel (connection : Connection Bench) : Connection Bench :=
  { connection with cancelled := true }

/-- Leaves a failure: connected if the adapter is still live, otherwise disconnected. -/
def clearError (connection : Connection Bench) : Connection Bench :=
  if connection.cancelled then connection
  else connection.publish (if connection.isAdapterConnected then .connected else .disconnected)

/-- The device went away by itself. Nothing happens while an attempt runs. -/
def handleDisconnect (connection : Connection Bench) (error : Option WalletError) :
    Connection Bench :=
  if connection.cancelled || connection.session.connecting then connection
  else
    let connection := connection.releaseAdapter
    let connection := connection.setSession
      { connection.session with token := none, appName := none }
    connection.publish
      (match error with
      | none => .disconnected
      | some error => .ofError error)

end Connection

end SignerLink
