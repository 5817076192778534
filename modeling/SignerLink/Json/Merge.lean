import SignerLink.Json.Value
/-!
Laying one value over another. Objects are joined field by field at every depth; any other
value covers what lies below it.
-/

namespace SignerLink

namespace Json

mutual

def merge (lower : Json) : Json → Json
  | .object fields =>
      match lower with
      | .object held => .object (mergeFields held fields)
      | _ => .object (mergeFields [] fields)
  | upper => upper

def mergeFields (held : Fields) : List (String × Json) → Fields
  | [] => held
  | (key, value) :: rest =>
      let below := (Fields.find? key held).getD (.object [])
      mergeFields (Fields.insert key (merge below value) held) rest

end

def sorted (json : Json) : Json := merge (.object []) json

end Json

end SignerLink
