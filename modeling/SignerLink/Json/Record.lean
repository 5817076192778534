import SignerLink.Json.Value
/-!
Decoding records and names. A record is an object, whose unknown fields are ignored, or an
array that holds the fields in their declared order.
-/

namespace SignerLink

namespace Json

/-- A field of a record: the keys it goes by, and whether an array may end before it. -/
structure Slot where
  keys : List String
  mayEnd : Bool

def Slot.required (key : String) : Slot := ⟨[key], false⟩

def Slot.trailing (key : String) : Slot := ⟨[key], true⟩

/-- The value of a slot in an object; two of its keys together are refused. -/
def Slot.read? (slot : Slot) (fields : Fields) : Option (Option Json) :=
  match fields.filter fun field => slot.keys.contains field.1 with
  | [] => some none
  | [(_, value)] => some (some value)
  | _ => none

def record? (slots : List Slot) : Json → Option (List (Option Json))
  | .object fields => slots.mapM fun slot => slot.read? fields
  | .array items =>
      let missing := slots.drop items.length
      if items.length ≤ slots.length && missing.all (·.mayEnd) then
        some (items.map some ++ missing.map fun _ => none)
      else none
  | _ => none

def present? {α : Type} (decode : Json → Option α) : Option Json → Option α
  | none => none
  | some value => decode value

def withDefault? {α : Type} (default : α) (decode : Json → Option α) : Option Json → Option α
  | none => some default
  | some value => decode value

def nullable? {α : Type} (decode : Json → Option α) : Option Json → Option (Option α)
  | none | some .null => some none
  | some value => (decode value).map some

/-! Reading objects leniently. -/

/-- A field of an object; an absent one reads as `null`. -/
def field (json : Json) (key : String) : Json := (json.get? key).getD .null

def textField? (json : Json) (key : String) : Option String := (json.field key).asString?

def naturalField? (json : Json) (key : String) : Option Nat := (json.field key).asUnsigned? 64

def naturalOr (default : Nat) (json : Json) (key : String) : Nat :=
  (json.naturalField? key).getD default

def boolOr (default : Bool) (json : Json) (key : String) : Bool :=
  ((json.field key).asBool?).getD default

def optionalField? {α : Type} (decode : Json → Option α) (json : Json) (key : String) :
    Option (Option α) :=
  nullable? decode (json.get? key)

def items : Json → List Json
  | .array values => values
  | _ => []

/-! Names. -/

/-- A name: a string, or an object that holds `null` under the name alone. -/
def name? : Json → Option String
  | .string name => some name
  | .object [(name, .null)] => some name
  | _ => none

def oneOf? {α : Type} (names : List (String × α)) (json : Json) : Option α := do
  let name ← json.name?
  names.lookup name

end Json

end SignerLink
