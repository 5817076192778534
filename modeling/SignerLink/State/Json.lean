import SignerLink.State.Basic
import SignerLink.Json.Record
/-!
The serialized connection state, tagged by its status. An array may stand for the object when
its first item is the tag.
-/

namespace SignerLink

namespace ConnectionState

def fields (state : ConnectionState) (error : WalletError → Json) : List (String × Json) :=
  match state with
  | .awaitingApp reason app =>
      [("status", .string state.status), ("reason", .string reason.name)]
        ++ app.toList.map fun name => ("app_name", .string name)
  | .failed reason failure =>
      [("status", .string state.status), ("reason", .string reason.name),
        ("error", error failure)]
  | _ => [("status", .string state.status)]

def toJson (state : ConnectionState) : Json := Json.ofPairs (state.fields WalletError.toJson)

def document (state : ConnectionState) : Json := .object (state.fields WalletError.document)

/-- Inside a tagged value a name may also hold an empty object. -/
def reason? {α : Type} (names : List (String × α)) (json : Json) : Option α :=
  match json with
  | .object [(name, .object [])] => names.lookup name
  | _ => json.oneOf? names

def appReason? : Json → Option AppReason :=
  reason? (AppReason.all.map fun reason => (reason.name, reason))

def errorReason? : Json → Option ErrorReason :=
  reason? (ErrorReason.all.map fun reason => (reason.name, reason))

def plain : List ConnectionState :=
  [.disconnected, .connecting, .connected, .ready, .awaitingConfirmation]

def ofTagged? (status : String) (content : Json) : Option ConnectionState :=
  if status = "awaiting_app" then do
    match ← content.record? [.required "reason", .trailing "app_name"] with
    | [reason, app] =>
        let reason ← Json.present? appReason? reason
        let app ← Json.nullable? Json.asString? app
        return .awaitingApp reason app
    | _ => none
  else if status = "error" then do
    match ← content.record? [.required "reason", .required "error"] with
    | [reason, error] =>
        let reason ← Json.present? errorReason? reason
        let error ← Json.present? WalletError.ofJson? error
        return .failed reason error
    | _ => none
  else
    match content with
    | .array (_ :: _) => none
    | _ => plain.find? fun state => state.status == status

def ofJson? : Json → Option ConnectionState
  | .object fields => do
      let status ← (Json.Fields.find? "status" fields).bind Json.asString?
      ofTagged? status (.object (Json.Fields.erase "status" fields))
  | .array (.string status :: items) => ofTagged? status (.array items)
  | _ => none

end ConnectionState

end SignerLink
