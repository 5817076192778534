import SignerLink.Adapter.Error
import SignerLink.Json.Record
import SignerLink.State.Event
/-!
Failures of adapters and notices written as JSON. Wallet errors inside them are read leniently.
-/

namespace SignerLink

def WalletError.inField? (json : Json) (key : String) : Option WalletError :=
  match json.field key with
  | .null => none
  | value => some (WalletError.reconstruct value)

def AdapterError.ofJson? (json : Json) : Option AdapterError := do
  match ← json.textField? "kind" with
  | "other" => return .other (← json.textField? "message")
  | "status" =>
      let word ← (json.field "status").asUnsigned? 16
      return .status word.toUInt16 (← json.textField? "message")
  | "wallet" => return .wallet (WalletError.reconstruct (json.field "error"))
  | _ => none

def Notice.ofJson? (json : Json) : Option Notice := do
  let kind ← (json.field "event").oneOf? (NoticeKind.all.map fun kind => (kind.name, kind))
  let app ← json.optionalField? Json.asString? "app"
  return ⟨kind, WalletError.inField? json "error", app⟩

end SignerLink
