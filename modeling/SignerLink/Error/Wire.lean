import SignerLink.Error.Basic
import SignerLink.Json.Printer
/-!
The serialized form of a failure, and reading it back. Reading is lenient: an optional field
with a value that is not understood counts as absent, and a code that is not known becomes
`unknown`, with the code kept in the context.
-/

namespace SignerLink

namespace ErrorContext

def isEmpty (context : ErrorContext) : Bool :=
  context.wallet.isNone && context.extra.isEmpty

/-- A `walletType` among the other fields wins over the attributed wallet. -/
def toJson (context : ErrorContext) : Json :=
  match context.wallet with
  | none => .object context.extra
  | some wallet =>
      match Json.Fields.find? "walletType" context.extra with
      | some _ => .object context.extra
      | none => .object (Json.Fields.insert "walletType" wallet.toJson context.extra)

def document (context : ErrorContext) : Json :=
  match context.wallet with
  | none => .object context.extra
  | some wallet => .object (("walletType", wallet.toJson) :: context.extra)

def ofJson? : Json → Option ErrorContext
  | .object fields =>
      match (Json.Fields.find? "walletType" fields).bind Wallet.ofJson? with
      | some wallet => some ⟨some wallet, Json.Fields.erase "walletType" fields⟩
      | none => some ⟨none, fields⟩
  | _ => none

end ErrorContext

/-- The serialized form: only the code is certain to be there. -/
structure WireError where
  code : String
  message : Option String := none
  severity : Option Severity := none
  category : Option Category := none
  userMessage : Option String := none
  cause : Option String := none
  context : Option ErrorContext := none
  deriving DecidableEq, Repr

namespace WireError

def slots : List Json.Slot :=
  [.required "code", .trailing "message", .trailing "severity", .trailing "category",
    ⟨["userMessage", "user_message"], true⟩, .trailing "cause", .trailing "metadata"]

/-- The value of an optional field, if it is understood. -/
def lenient {α : Type} (decode : Json → Option α) (field : Option Json) : Option α :=
  field.bind decode

def severity? (json : Json) : Option Severity :=
  json.oneOf? (Severity.all.map fun severity => (severity.name, severity))

def category? (json : Json) : Option Category :=
  json.oneOf? (Category.all.map fun category => (category.name, category))

def ofJson? (json : Json) : Option WireError := do
  match ← json.record? slots with
  | [code, message, severity, category, userMessage, cause, context] =>
      let code ← Json.present? Json.asString? code
      return {
        code := code
        message := lenient Json.asString? message
        severity := lenient severity? severity
        category := lenient category? category
        userMessage := lenient Json.asString? userMessage
        cause := lenient Json.asString? cause
        context := lenient ErrorContext.ofJson? context }
  | _ => none

def ofError (error : WalletError) : WireError where
  code := error.code.name
  message := some error.message
  severity := some error.severity
  category := some error.category
  userMessage := some error.userMessage
  cause := error.cause
  context := if error.context.isEmpty then none else some error.context

def fields (wire : WireError) (context : ErrorContext → Json) : List (String × Json) :=
  let text (key : String) (value : Option String) : List (String × Json) :=
    value.toList.map fun value => (key, .string value)
  [("code", .string wire.code)]
    ++ text "message" wire.message
    ++ text "severity" (wire.severity.map Severity.name)
    ++ text "category" (wire.category.map Category.name)
    ++ text "userMessage" wire.userMessage
    ++ text "cause" wire.cause
    ++ wire.context.toList.map fun value => ("metadata", context value)

def toJson (wire : WireError) : Json := Json.ofPairs (wire.fields ErrorContext.toJson)

def document (wire : WireError) : Json := .object (wire.fields ErrorContext.document)

end WireError

namespace WalletError

def toJson (error : WalletError) : Json := (WireError.ofError error).toJson

def document (error : WalletError) : Json := (WireError.ofError error).document

def ofWire (wire : WireError) : WalletError :=
  let known := ErrorCode.ofName? wire.code
  let code := known.getD .unknown
  let userMessage := wire.userMessage.getD code.userMessage
  let context := wire.context.getD {}
  { code := code
    message := wire.message.getD userMessage
    severity := wire.severity.getD .error
    category := wire.category.getD .unknown
    userMessage := userMessage
    cause := wire.cause
    context :=
      match known with
      | some _ => context
      | none =>
          { context with
            extra := Json.Fields.insert "originalCode" (.string wire.code) context.extra } }

def ofJson? (json : Json) : Option WalletError := (WireError.ofJson? json).map ofWire

/-- A string is its own text, any other value is written compactly. -/
def valueText : Json → String
  | .string text => text
  | other => other.compact

/-- Makes the best of any value: without a code the value's text is the message of an unknown
failure. -/
def reconstruct (json : Json) : WalletError :=
  match WireError.ofJson? json with
  | some wire => ofWire wire
  | none => (ofCode .unknown).withMessage (valueText json)

end WalletError

structure RpcEnvelope where
  code : Int
  message : String
  data : Option Json := none
  deriving DecidableEq, Repr

namespace RpcEnvelope

def internalError : Int := -32603

def ofJson? (json : Json) : Option RpcEnvelope := do
  match ← json.record? [.required "code", .required "message", .trailing "data"] with
  | [code, message, data] =>
      let code ← Json.present? Json.asSigned64? code
      let message ← Json.present? Json.asString? message
      let data ← Json.nullable? some data
      return ⟨code, message, data⟩
  | _ => none

def toJson (envelope : RpcEnvelope) : Json :=
  Json.ofPairs
    ([("code", Json.integer envelope.code), ("message", .string envelope.message)]
      ++ envelope.data.toList.map fun value => ("data", value))

def ofError (error : WalletError) : RpcEnvelope :=
  ⟨internalError, error.message, some error.toJson⟩

end RpcEnvelope

end SignerLink
