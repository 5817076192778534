import SignerLink.Connection.Attempt
/-!
Making a device ready to sign: the wallet's device has to be connected, and its adapter has to
find it unlocked with the right application open.
-/

namespace SignerLink

inductive Readiness where
  | refused
  | held (token : Token) (deviceId : String) (adapter : AdapterId)
  | wanting (deviceId : Option String)
  deriving DecidableEq, Repr

inductive ReadinessCall where
  | attempting (wallet : Wallet) (call : AttemptCall)
  | verifying (token : Token) (wallet : Wallet) (deviceId : String) (adapter : AdapterId)
  deriving Repr

def notReady (wallet : Wallet) : WalletError :=
  ((WalletError.ofCode .unknown).withMessage "Device is not ready").withWallet wallet

namespace Connection

variable {Bench : Type} [AdapterBench Bench]

abbrev ReadinessProgress := Progress ReadinessCall Bool

def held? (connection : Connection Bench) : Option (Token × String × AdapterId) := do
  let adapter ← connection.session.adapter
  let token ← connection.session.token
  let deviceId ← connection.session.deviceId
  return (token, deviceId, adapter)

/-- A live adapter serves if it is the wallet's and, where one is named, on the device wanted. -/
def readiness (connection : Connection Bench) (wallet : Wallet) (wanted : Option String) :
    Readiness :=
  let wanting : Readiness := .wanting (wanted <|> connection.session.deviceId)
  if connection.cancelled then .refused
  else
    match connection.held? with
    | none => wanting
    | some (token, deviceId, adapter) =>
        if connection.isAdapterConnected && connection.session.wallet == some wallet
            && wanted.all (· == deviceId) then
          .held token deviceId adapter
        else wanting

def verifyAnswered (connection : Connection Bench) (token : Token) (wallet : Wallet)
    (answer : AdapterAnswer) : Connection Bench × Bool :=
  match connection.interruption? token with
  | some _ => (connection, false)
  | none =>
      match answer with
      | .ok true => (connection.publish .ready, true)
      | .ok false => (connection.publish (.failed .deviceNotReady (notReady wallet)), false)
      | .error error => (connection.publish (.ofError (error.classify wallet)), false)

def verify (connection : Connection Bench) (token : Token) (wallet : Wallet) (deviceId : String)
    (adapter : AdapterId) : Connection Bench × ReadinessProgress :=
  match connection.ask adapter (.verify deviceId) with
  | (connection, .later milliseconds) =>
      (connection, .waiting (.verifying token wallet deviceId adapter) milliseconds)
  | (connection, .now answer) =>
      let (connection, ready) := connection.verifyAnswered token wallet answer
      (connection, .finished ready)

def verifyConnected (connection : Connection Bench) (wallet : Wallet)
    (progress : AttemptProgress) : Connection Bench × ReadinessProgress :=
  match progress with
  | .waiting call milliseconds => (connection, .waiting (.attempting wallet call) milliseconds)
  | .finished outcome =>
      if outcome.isConnected then
        match connection.held? with
        | none => (connection, .finished false)
        | some (token, deviceId, adapter) => connection.verify token wallet deviceId adapter
      else (connection, .finished false)

def connectReady (connection : Connection Bench) (wallet : Wallet) (target : Target) :
    Connection Bench × ReadinessProgress :=
  let (connection, progress) := connection.connect wallet target
  connection.verifyConnected wallet progress

def resumeReadiness (connection : Connection Bench) (call : ReadinessCall) :
    Connection Bench × ReadinessProgress :=
  match call with
  | .attempting wallet call =>
      let (connection, progress) := connection.resumeAttempt call
      connection.verifyConnected wallet progress
  | .verifying token wallet deviceId adapter =>
      let (connection, answer) := connection.await adapter (.verify deviceId)
      let (connection, ready) := connection.verifyAnswered token wallet answer
      (connection, .finished ready)

end Connection

end SignerLink
