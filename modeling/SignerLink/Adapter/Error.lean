import SignerLink.Error.Classify
/-!
Failures that an adapter reports.
-/

namespace SignerLink

inductive AdapterError where
  | wallet (error : WalletError)
  | status (word : UInt16) (message : String)
  | other (message : String)
  deriving DecidableEq, Repr

namespace AdapterError

def text : AdapterError → String
  | .wallet error => error.message
  | .status word message => message ++ " (0x" ++ String.ofList (StatusWord.text word) ++ ")"
  | .other message => message

def classify (error : AdapterError) (wallet : Option Wallet) : WalletError :=
  match error with
  | .wallet error => error
  | .status word message =>
      RawFailure.classify { message := message, status := some word } wallet
  | .other message => RawFailure.classify { message := message } wallet

end AdapterError

end SignerLink
