import SignerLink.Error.Message
import SignerLink.Error.StatusWord
import SignerLink.Error.Wire
/-!
From a raw failure to a classified one. A status word wins over the name of the failure, and
the name over the message.
-/

namespace SignerLink

structure RawFailure where
  name : Option String := none
  message : String := ""
  status : Option UInt16 := none
  deriving DecidableEq, Repr

namespace RawFailure

def codeOfName? (name : String) : Option ErrorCode :=
  if name = "LockedDeviceError" then some .deviceLocked
  else if name = "TransportOpenUserCancelled" || name = "AbortError" then some .userCancelled
  else if name = "DisconnectedDevice" || name = "DisconnectedDeviceDuringOperation"
      || name = "NotFoundError" then some .deviceDisconnected
  else if name = "NotAllowedError" || name = "SecurityError" then some .permissionDenied
  else if name = "TimeoutError" then some .timeout
  else if name = "TransportInterfaceNotAvailable" then some .transportMissing
  else none

/-- Only a Ledger puts status words into its messages. -/
def printedCode? (message : String) (wallet : Option Wallet) : Option ErrorCode :=
  if wallet = some .ledger then
    (StatusWord.allIn message.toList).findSome? ErrorCode.ofStatusWord?
  else none

def code (raw : RawFailure) (wallet : Option Wallet) : ErrorCode :=
  ((raw.status.bind ErrorCode.ofStatusWord?).or (printedCode? raw.message wallet)).or
    (raw.name.bind codeOfName?) |>.getD (Message.code raw.message)

/-- An empty message gives way to the one of the code. -/
def classify (raw : RawFailure) (wallet : Option Wallet) : WalletError :=
  let error := (WalletError.ofCode (raw.code wallet)).withWallet wallet
  let error := if raw.message.isEmpty then error else error.withMessage raw.message
  match raw.status with
  | none => error
  | some status => error.withField "statusCode" (Json.natural status.toNat)

end RawFailure

namespace WalletError

def ofMessage (message : String) (wallet : Option Wallet) : WalletError :=
  RawFailure.classify { message := message } wallet

/-- A value that says it is a serialized failure: by its name, or by a known code beside a
category. -/
def typed? (json : Json) : Option WalletError := do
  let code ← (json.get? "code").bind Json.asString?
  let named := (json.get? "name").bind Json.asString? == some "HardwareWalletError"
  let known := (ErrorCode.ofName? code).isSome
  if named || (known && (json.get? "category").isSome) then some (reconstruct json) else none

def wrappedCause? (json : Json) : Option Json := (json.get? "data").bind (·.get? "cause")

def statusOf? (json : Json) : Option UInt16 :=
  let places := [(wrappedCause? json).bind (·.get? "statusCode"), json.get? "statusCode",
    (json.get? "data").bind (·.get? "statusCode")]
  places.findSome? fun place =>
    place.bind fun value => (value.asUnsigned? 16).map Nat.toUInt16

def textUnder? (json : Json) (key : String) : Option String :=
  [wrappedCause? json, some json].findSome? fun place =>
    place.bind fun value => (value.get? key).bind Json.asString?

/-- Classifies a value that crossed a process boundary: a serialized failure, one wrapped
under `data.cause`, a status word, then the text. -/
def ofValue (json : Json) (wallet : Option Wallet) : WalletError :=
  match (typed? json).or ((wrappedCause? json).bind typed?) with
  | some error => error.withWallet wallet
  | none =>
      RawFailure.classify
        { name := textUnder? json "name"
          message := (textUnder? json "message").getD (valueText json)
          status := statusOf? json }
        wallet

def ofEnvelope (envelope : RpcEnvelope) : WalletError :=
  match envelope.data with
  | none | some .null => ofMessage envelope.message none
  | some data =>
      let error := reconstruct data
      if error.message.isEmpty then error.withMessage envelope.message else error

/-- Unwraps the error object of a remote call; any other value is classified as it stands. -/
def decode (json : Json) (wallet : Option Wallet) : WalletError :=
  let envelope :=
    if ((json.get? "code").bind Json.asSigned64?).isSome then RpcEnvelope.ofJson? json else none
  match envelope with
  | some envelope => (ofEnvelope envelope).withWallet wallet
  | none => ofValue json wallet

end WalletError

end SignerLink
