import SignerLink.Error.Wire
/-!
The connection state that subscribers of a session see, its texts, and the state in which a
failure leaves the session.
-/

namespace SignerLink

inductive AppReason where
  | notOpen
  | wrongApp
  deriving DecidableEq, Repr

def AppReason.all : List AppReason := [.notOpen, .wrongApp]

def AppReason.name : AppReason → String
  | .notOpen => "not_open"
  | .wrongApp => "wrong_app"

inductive ErrorReason where
  | locked
  | transportUnavailable
  | permissionDenied
  | connectionClosed
  | deviceDisconnected
  | userRejected
  | timeout
  | connectionFailed
  | deviceNotReady
  | unknown
  deriving DecidableEq, Repr

def ErrorReason.all : List ErrorReason :=
  [.locked, .transportUnavailable, .permissionDenied, .connectionClosed, .deviceDisconnected,
    .userRejected, .timeout, .connectionFailed, .deviceNotReady, .unknown]

def ErrorReason.name : ErrorReason → String
  | .locked => "locked"
  | .transportUnavailable => "transport_unavailable"
  | .permissionDenied => "permission_denied"
  | .connectionClosed => "connection_closed"
  | .deviceDisconnected => "device_disconnected"
  | .userRejected => "user_rejected"
  | .timeout => "timeout"
  | .connectionFailed => "connection_failed"
  | .deviceNotReady => "device_not_ready"
  | .unknown => "unknown"

inductive ConnectionState where
  | disconnected
  | connecting
  | connected
  | ready
  | awaitingConfirmation
  | awaitingApp (reason : AppReason) (app : Option String)
  | failed (reason : ErrorReason) (error : WalletError)
  deriving DecidableEq, Repr

namespace ConnectionState

instance : Inhabited ConnectionState := ⟨.disconnected⟩

def status : ConnectionState → String
  | .disconnected => "disconnected"
  | .connecting => "connecting"
  | .connected => "connected"
  | .ready => "ready"
  | .awaitingConfirmation => "awaiting_confirmation"
  | .awaitingApp _ _ => "awaiting_app"
  | .failed _ _ => "error"

/-- A session with a live adapter: anything past connecting that is no failure. -/
def isConnected : ConnectionState → Bool
  | .connected | .ready | .awaitingConfirmation | .awaitingApp _ _ => true
  | _ => false

def isFailed : ConnectionState → Bool
  | .failed _ _ => true
  | _ => false

def error? : ConnectionState → Option WalletError
  | .failed _ error => some error
  | _ => none

def text : ConnectionState → String
  | .awaitingApp reason (some app) => "awaiting_app(" ++ reason.name ++ ", " ++ app ++ ")"
  | .awaitingApp reason none => "awaiting_app(" ++ reason.name ++ ")"
  | .failed reason error => "error(" ++ reason.name ++ "): " ++ error.message
  | state => state.status

def ofError (error : WalletError) : ConnectionState :=
  match error.code with
  | .deviceLocked | .deviceBlocked | .securityCondition => .failed .locked error
  | .appClosed => .awaitingApp .notOpen none
  | .wrongApp =>
      .awaitingApp .wrongApp
        ((Json.Fields.find? "appName" error.context.extra).bind Json.asString?)
  | .transportMissing => .failed .transportUnavailable error
  | .permissionDenied => .failed .permissionDenied error
  | .connectionClosed => .failed .connectionClosed error
  | .deviceDisconnected => .failed .deviceDisconnected error
  | .userRejected | .userCancelled => .failed .userRejected error
  | .timeout => .failed .timeout error
  | .connectionFailed => .failed .connectionFailed error
  | .unknown | .blindSigning => .failed .unknown error

end ConnectionState

end SignerLink
