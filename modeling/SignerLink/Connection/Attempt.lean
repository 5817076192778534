import SignerLink.Connection.Basic
import SignerLink.Transport.Error
/-!
Connecting. An attempt takes the session over at once, finds a device unless it is given one,
then creates an adapter and lets it connect. The most recent attempt wins: whenever an earlier
one is resumed, it leaves the session alone.
-/

namespace SignerLink

abbrev DeviceSearch := Except TransportError (Option String)

/-- The device of an attempt, or the search for one with the delay of its answer. -/
inductive Target where
  | device (id : String)
  | search (found : DeviceSearch) (milliseconds : Nat)
  deriving Repr

inductive AttemptCall where
  | searching (token : Token) (wallet : Wallet) (found : DeviceSearch)
  | connecting (token : Token) (wallet : Wallet) (deviceId : String) (adapter : AdapterId)
  deriving Repr

def AttemptCall.token : AttemptCall → Token
  | .searching token _ _ => token
  | .connecting token _ _ _ => token

def noDeviceFound (wallet : Wallet) : WalletError :=
  ((WalletError.ofCode .deviceDisconnected).withMessage
    "No paired hardware wallet device found").withWallet wallet

namespace Connection

variable {Bench : Type} [AdapterBench Bench]

abbrev AttemptProgress := Progress AttemptCall ConnectOutcome

def beginAttempt (connection : Connection Bench) (wallet : Wallet) (deviceId : Option String) :
    Connection Bench × Token :=
  let (connection, token) := connection.allocate
  let connection := connection.releaseAdapter
  let connection := connection.setSession
    { connection.session with
      token := some token
      connecting := true
      wallet := some wallet
      deviceId := deviceId
      appName := none }
  (connection.publish .connecting, token)

def failAttempt (connection : Connection Bench) (error : WalletError) :
    Connection Bench × ConnectOutcome :=
  let connection := connection.releaseAdapter
  let connection := connection.setSession
    { connection.session with token := none, connecting := false }
  (connection.publish (.ofError error), .failed error)

def connectAnswered (connection : Connection Bench) (token : Token) (wallet : Wallet)
    (adapter : AdapterId) (answer : AdapterAnswer) : Connection Bench × ConnectOutcome :=
  match connection.interruption? token with
  | some outcome => (connection.discard adapter, outcome)
  | none =>
      match answer with
      | .error error => connection.failAttempt (error.classify wallet)
      | .ok _ =>
          let connection := connection.setSession { connection.session with connecting := false }
          (connection.publish .connected, .connected)

def openAdapter (connection : Connection Bench) (token : Token) (wallet : Wallet)
    (deviceId : String) : Connection Bench × AttemptProgress :=
  let connection := connection.setSession { connection.session with deviceId := some deviceId }
  match AdapterBench.create connection.bench wallet token with
  | (bench, .error error) =>
      let (connection, outcome) := ({ connection with bench := bench }).failAttempt error
      (connection, .finished outcome)
  | (bench, .ok adapter) =>
      let connection := ({ connection with bench := bench }).setSession
        { connection.session with adapter := some adapter }
      match connection.ask adapter (.connect deviceId) with
      | (connection, .later milliseconds) =>
          (connection, .waiting (.connecting token wallet deviceId adapter) milliseconds)
      | (connection, .now answer) =>
          let (connection, outcome) := connection.connectAnswered token wallet adapter answer
          (connection, .finished outcome)

def searched (connection : Connection Bench) (token : Token) (wallet : Wallet)
    (found : DeviceSearch) : Connection Bench × AttemptProgress :=
  match connection.interruption? token with
  | some outcome => (connection, .finished outcome)
  | none =>
      match found with
      | .ok (some deviceId) => connection.openAdapter token wallet deviceId
      | .ok none =>
          let (connection, outcome) := connection.failAttempt (noDeviceFound wallet)
          (connection, .finished outcome)
      | .error error =>
          let (connection, outcome) := connection.failAttempt (error.toWalletError wallet)
          (connection, .finished outcome)

def connect (connection : Connection Bench) (wallet : Wallet) (target : Target) :
    Connection Bench × AttemptProgress :=
  if connection.cancelled then (connection, .finished .aborted)
  else
    match target with
    | .device id =>
        let (connection, token) := connection.beginAttempt wallet (some id)
        connection.openAdapter token wallet id
    | .search found milliseconds =>
        let (connection, token) := connection.beginAttempt wallet none
        if milliseconds = 0 then connection.searched token wallet found
        else (connection, .waiting (.searching token wallet found) milliseconds)

def resumeAttempt (connection : Connection Bench) (call : AttemptCall) :
    Connection Bench × AttemptProgress :=
  match call with
  | .searching token wallet found => connection.searched token wallet found
  | .connecting token wallet deviceId adapter =>
      let (connection, answer) := connection.await adapter (.connect deviceId)
      let (connection, outcome) := connection.connectAnswered token wallet adapter answer
      (connection, .finished outcome)

end Connection

end SignerLink
