import SignerLink.Connection.Basic
/-!
Operations on the wallet, such as signing. While one runs, the session awaits confirmation on
the device.
-/

namespace SignerLink

structure OperationView where
  state : ConnectionState
  wallet : Option Wallet
  deriving DecidableEq, Repr

structure Operation where
  answer : Except AdapterError Json
  milliseconds : Nat := 0
  deriving Repr

structure OperationCall where
  token : Token
  wallet : Option Wallet
  view : OperationView
  answer : Except AdapterError Json
  deriving Repr

structure OperationResult where
  view : Option OperationView
  result : Except WalletError Json
  deriving Repr

def noWalletConnected (wallet : Option Wallet) : WalletError :=
  ((WalletError.ofCode .deviceDisconnected).withMessage
    "No hardware wallet connected").withWallet wallet

namespace Connection

variable {Bench : Type} [AdapterBench Bench]

abbrev OperationProgress := Progress OperationCall OperationResult

/-- The operation has ended. Its result is shown unless the attempt is over. -/
def operationAnswered (connection : Connection Bench) (call : OperationCall) :
    Connection Bench × OperationResult :=
  let event : StateEvent :=
    match call.answer with
    | .ok _ => .ready
    | .error error => .ofError (error.classify call.wallet)
  let result : Except WalletError Json := call.answer.mapError (·.classify call.wallet)
  let connection :=
    match connection.interruption? call.token with
    | some _ => connection
    | none => connection.publish event
  (connection, ⟨some call.view, result⟩)

def operate (connection : Connection Bench) (operation : Operation) :
    Connection Bench × OperationProgress :=
  match connection.session.adapter, connection.session.token with
  | some adapter, some token =>
      let adapterWallet := AdapterBench.walletOf connection.bench adapter
      let connection :=
        if connection.cancelled then connection else connection.publish .awaitingConfirmation
      let call : OperationCall :=
        { token := token
          wallet := connection.session.wallet <|> adapterWallet
          view := ⟨connection.state, adapterWallet⟩
          answer := operation.answer }
      if operation.milliseconds = 0 then
        let (connection, result) := connection.operationAnswered call
        (connection, .finished result)
      else (connection, .waiting call operation.milliseconds)
  | _, _ => (connection, .finished ⟨none, .error (noWalletConnected connection.session.wallet)⟩)

def resumeOperation (connection : Connection Bench) (call : OperationCall) :
    Connection Bench × OperationProgress :=
  let (connection, result) := connection.operationAnswered call
  (connection, .finished result)

end Connection

end SignerLink
