import SignerLink.State.Basic
/-!
What moves the connection state: events of the session, notices from an adapter, and the rule
that tells whether a move is a change.
-/

namespace SignerLink

inductive NoticeKind where
  | disconnected
  | deviceLocked
  | appNotOpen
  | appChanged
  | connectionFailed
  | operationTimeout
  deriving DecidableEq, Repr

namespace NoticeKind

def all : List NoticeKind :=
  [.disconnected, .deviceLocked, .appNotOpen, .appChanged, .connectionFailed, .operationTimeout]

def name : NoticeKind → String
  | .disconnected => "disconnected"
  | .deviceLocked => "device_locked"
  | .appNotOpen => "app_not_open"
  | .appChanged => "app_changed"
  | .connectionFailed => "connection_failed"
  | .operationTimeout => "operation_timeout"

def ofCode : ErrorCode → NoticeKind
  | .deviceLocked | .deviceBlocked => .deviceLocked
  | .appClosed => .appNotOpen
  | .deviceDisconnected | .connectionClosed => .disconnected
  | .timeout => .operationTimeout
  | _ => .connectionFailed

end NoticeKind

structure Notice where
  kind : NoticeKind
  error : Option WalletError := none
  app : Option String := none
  deriving DecidableEq, Repr

inductive StateEvent where
  | disconnected
  | connecting
  | connected
  | ready
  | awaitingConfirmation
  | awaitingApp (reason : AppReason) (app : Option String)
  | failed (reason : ErrorReason) (error : WalletError)
  deriving DecidableEq, Repr

namespace StateEvent

def target : StateEvent → ConnectionState
  | .disconnected => .disconnected
  | .connecting => .connecting
  | .connected => .connected
  | .ready => .ready
  | .awaitingConfirmation => .awaitingConfirmation
  | .awaitingApp reason app => .awaitingApp reason app
  | .failed reason error => .failed reason error

def ofState : ConnectionState → StateEvent
  | .disconnected => .disconnected
  | .connecting => .connecting
  | .connected => .connected
  | .ready => .ready
  | .awaitingConfirmation => .awaitingConfirmation
  | .awaitingApp reason app => .awaitingApp reason app
  | .failed reason error => .failed reason error

def ofError (error : WalletError) : StateEvent := ofState (ConnectionState.ofError error)

def dashboard : String := "BOLOS"

/-- The event of a notice from a wallet's adapter. A device is ready when it reports the
application that its wallet expects. -/
def ofNotice (notice : Notice) (wallet : Option Wallet) : StateEvent :=
  let failure (standIn : WalletError) : WalletError :=
    notice.error.getD (standIn.withWallet wallet)
  match notice.kind with
  | .disconnected => .disconnected
  | .deviceLocked => .failed .locked (failure (.ofCode .deviceLocked))
  | .appNotOpen => .awaitingApp .notOpen none
  | .appChanged =>
      if notice.app.isSome && notice.app == wallet.bind Wallet.expectedApp? then .ready
      else .awaitingApp .wrongApp (some (notice.app.getD dashboard))
  | .connectionFailed =>
      .failed .connectionFailed
        (failure (((WalletError.ofCode .transportMissing).withMessage
          "Hardware wallet connection failed").withCategory .connection))
  | .operationTimeout =>
      .failed .timeout
        (failure (((WalletError.ofCode .timeout).withMessage
          "Operation timed out").withCategory .protocol))

end StateEvent

namespace ConnectionState

/-- States that subscribers need not tell apart: the same kind, and for failures the same
reason and message, for a missing application the same reason and name. -/
def alike : ConnectionState → ConnectionState → Bool
  | .disconnected, .disconnected | .connecting, .connecting | .connected, .connected
  | .ready, .ready | .awaitingConfirmation, .awaitingConfirmation => true
  | .awaitingApp reason app, .awaitingApp other name => reason == other && app == name
  | .failed reason error, .failed other failure =>
      reason == other && error.message == failure.message
  | _, _ => false

end ConnectionState

/-- The next state; `none` keeps the current one. While an attempt runs, a disconnection is
not shown. -/
def transition (current : ConnectionState) (event : StateEvent) (connecting : Bool) :
    Option ConnectionState :=
  if connecting && event == .disconnected then none
  else if current.alike event.target then none
  else some event.target

end SignerLink
