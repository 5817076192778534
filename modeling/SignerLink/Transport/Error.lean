import SignerLink.Device
import SignerLink.Error.Classify
/-!
Failures of the host's device access.
-/

namespace SignerLink

inductive TransportError where
  | unavailable (channel : Channel)
  | unsupported (wallet : Wallet)
  | cancelled
  | denied (message : String)
  | other (message : String)
  deriving DecidableEq, Repr

namespace TransportError

def text : TransportError → String
  | .unavailable channel => channel.displayName ++ " is not available in this environment"
  | .unsupported wallet => wallet.name ++ " devices have no supported transport"
  | .cancelled => "device selection was cancelled"
  | .denied message => "access to the device was denied: " ++ message
  | .other message => "transport error: " ++ message

/-- What hosts say when the user dismisses the device chooser. -/
def dismissals : List String :=
  ["user cancelled the requestdevice() chooser", "the user cancelled the dialog",
    "request cancelled", "permission request was denied by user", "no device selected",
    "cancelled"]

def isUserCancellation : TransportError → Bool
  | .cancelled | .denied _ => true
  | .other message => Message.holdsAny dismissals (Message.lowerAscii message.toList)
  | .unavailable _ | .unsupported _ => false

def toWalletError (error : TransportError) (wallet : Wallet) : WalletError :=
  let classified : WalletError :=
    match error with
    | .unavailable _ | .unsupported _ => (WalletError.ofCode .transportMissing).withWallet wallet
    | .cancelled => (WalletError.ofCode .userCancelled).withWallet wallet
    | .denied _ => (WalletError.ofCode .permissionDenied).withWallet wallet
    | .other message => WalletError.ofMessage message wallet
  classified.withCause error.text

def ofJson? (json : Json) : Option TransportError := do
  match ← json.textField? "kind" with
  | "unavailable" => return .unavailable (← Channel.ofJson? (json.field "channel"))
  | "unsupported" => return .unsupported (← Wallet.ofJson? (json.field "unsupported"))
  | "cancelled" => return .cancelled
  | "denied" => return .denied (← json.textField? "message")
  | "other" => return .other (← json.textField? "message")
  | _ => none

end TransportError

end SignerLink
