import SignerLink.Json.Binary64
/-!
JSON values. The fields of an object are a list of pairs; the operations that build objects
keep keys in ascending order and hold each key once.
-/

namespace SignerLink

/-- Integers of 64 bits, signed or unsigned, stay exact; every other number is binary64. -/
inductive Number where
  | integer (value : Int)
  | float (value : Binary64)
  deriving DecidableEq, Repr

inductive Json where
  | null
  | bool (value : Bool)
  | number (value : Number)
  | string (value : String)
  | array (items : List Json)
  | object (fields : List (String × Json))
  deriving Repr

namespace Json

instance : Inhabited Json := ⟨.null⟩

mutual

def decideEq : (left right : Json) → Decidable (left = right)
  | .null, .null => isTrue rfl
  | .bool left, .bool right =>
      if same : left = right then isTrue (by rw [same])
      else isFalse (by intro equal; cases equal; exact same rfl)
  | .number left, .number right =>
      if same : left = right then isTrue (by rw [same])
      else isFalse (by intro equal; cases equal; exact same rfl)
  | .string left, .string right =>
      if same : left = right then isTrue (by rw [same])
      else isFalse (by intro equal; cases equal; exact same rfl)
  | .array left, .array right =>
      match decideItems left right with
      | isTrue same => isTrue (by rw [same])
      | isFalse differ => isFalse (by intro equal; cases equal; exact differ rfl)
  | .object left, .object right =>
      match decideFields left right with
      | isTrue same => isTrue (by rw [same])
      | isFalse differ => isFalse (by intro equal; cases equal; exact differ rfl)
  | .null, .bool _ | .null, .number _ | .null, .string _ | .null, .array _ | .null, .object _
  | .bool _, .null | .bool _, .number _ | .bool _, .string _ | .bool _, .array _
  | .bool _, .object _ | .number _, .null | .number _, .bool _ | .number _, .string _
  | .number _, .array _ | .number _, .object _ | .string _, .null | .string _, .bool _
  | .string _, .number _ | .string _, .array _ | .string _, .object _ | .array _, .null
  | .array _, .bool _ | .array _, .number _ | .array _, .string _ | .array _, .object _
  | .object _, .null | .object _, .bool _ | .object _, .number _ | .object _, .string _
  | .object _, .array _ => isFalse (by intro equal; cases equal)

def decideItems : (left right : List Json) → Decidable (left = right)
  | [], [] => isTrue rfl
  | [], _ :: _ => isFalse (by intro equal; cases equal)
  | _ :: _, [] => isFalse (by intro equal; cases equal)
  | head :: tail, other :: rest =>
      match decideEq head other, decideItems tail rest with
      | isTrue first, isTrue second => isTrue (by rw [first, second])
      | isFalse differ, _ => isFalse (by intro equal; cases equal; exact differ rfl)
      | _, isFalse differ => isFalse (by intro equal; cases equal; exact differ rfl)

def decideFields : (left right : List (String × Json)) → Decidable (left = right)
  | [], [] => isTrue rfl
  | [], _ :: _ => isFalse (by intro equal; cases equal)
  | _ :: _, [] => isFalse (by intro equal; cases equal)
  | (key, head) :: tail, (other, value) :: rest =>
      if name : key = other then
        match decideEq head value, decideFields tail rest with
        | isTrue first, isTrue second => isTrue (by rw [name, first, second])
        | isFalse differ, _ => isFalse (by intro equal; cases equal; exact differ rfl)
        | _, isFalse differ => isFalse (by intro equal; cases equal; exact differ rfl)
      else isFalse (by intro equal; cases equal; exact name rfl)

end

instance : DecidableEq Json := decideEq

abbrev Fields := List (String × Json)

namespace Fields

def find? (key : String) : Fields → Option Json
  | [] => none
  | (other, value) :: rest => if other = key then some value else find? key rest

def insert (key : String) (value : Json) : Fields → Fields
  | [] => [(key, value)]
  | (other, held) :: rest =>
      if other = key then (key, value) :: rest
      else if key < other then (key, value) :: (other, held) :: rest
      else (other, held) :: insert key value rest

def erase (key : String) (fields : Fields) : Fields :=
  fields.filter fun field => !decide (field.1 = key)

/-- Fields in ascending key order; of two values for one key the later stays. -/
def ofList (pairs : List (String × Json)) : Fields :=
  pairs.foldl (fun fields pair => insert pair.1 pair.2 fields) []

end Fields

def ofPairs (pairs : List (String × Json)) : Json := .object (Fields.ofList pairs)

def natural (value : Nat) : Json := .number (.integer value)

def integer (value : Int) : Json := .number (.integer value)

def optional {α : Type} (encode : α → Json) : Option α → Json
  | none => .null
  | some value => encode value

def get? (json : Json) (key : String) : Option Json :=
  match json with
  | .object fields => Fields.find? key fields
  | _ => none

def asString? : Json → Option String
  | .string value => some value
  | _ => none

def asBool? : Json → Option Bool
  | .bool value => some value
  | _ => none

def asIntegerIn? (low high : Int) : Json → Option Int
  | .number (.integer value) => if low ≤ value && value ≤ high then some value else none
  | _ => none

def asUnsigned? (bits : Nat) (json : Json) : Option Nat :=
  (json.asIntegerIn? 0 (Nat.pow 2 bits - 1)).map Int.toNat

def asSigned64? (json : Json) : Option Int := json.asIntegerIn? (-Nat.pow 2 63) (Nat.pow 2 63 - 1)

end Json

end SignerLink
