import SignerLink.Error.Code
import SignerLink.Wallet
/-!
A classified failure of a wallet, with its message, its place in the taxonomy and free-form
context.
-/

namespace SignerLink

/-- Context of a failure. A wallet name that is not known stays among the other fields. -/
structure ErrorContext where
  wallet : Option Wallet := none
  extra : Json.Fields := []
  deriving DecidableEq, Repr

structure WalletError where
  code : ErrorCode
  message : String
  severity : Severity
  category : Category
  userMessage : String
  cause : Option String := none
  context : ErrorContext := {}
  deriving DecidableEq, Repr

namespace WalletError

def ofCode (code : ErrorCode) : WalletError where
  code := code
  message := code.userMessage
  severity := code.severity
  category := code.category
  userMessage := code.userMessage

def withMessage (error : WalletError) (message : String) : WalletError :=
  { error with message := message }

def withCategory (error : WalletError) (category : Category) : WalletError :=
  { error with category := category }

def withCause (error : WalletError) (cause : String) : WalletError :=
  { error with cause := some cause }

def withWallet (error : WalletError) (wallet : Option Wallet) : WalletError :=
  match wallet with
  | none => error
  | some wallet => { error with context := { error.context with wallet := some wallet } }

def withField (error : WalletError) (key : String) (value : Json) : WalletError :=
  { error with
    context := { error.context with extra := Json.Fields.insert key value error.context.extra } }

def retryStrategy (error : WalletError) : RetryStrategy := error.code.retryStrategy

def userActionable (error : WalletError) : Bool := error.code.userActionable

def isUserRejection (error : WalletError) : Bool := error.code.isUserRejection

end WalletError

end SignerLink
