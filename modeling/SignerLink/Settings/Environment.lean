import SignerLink.Json.Merge
import SignerLink.Text.Space
import SignerLink.Toml.Scalar
/-!
Settings in environment variables. After its prefix a name leads to a setting, with two
underscores between a section and a key; the text of a variable is read as the value it looks
like.
-/

namespace SignerLink

/-- Variables in ascending order of their names. -/
abbrev Environment := List (String × String)

namespace Environment

/-! Names. -/

def variablePrefix : List Char := "hwlink_".toList

def splitPoints : List Char → List (List Char)
  | [] => [[]]
  | '.' :: rest => [] :: splitPoints rest
  | character :: rest =>
      match splitPoints rest with
      | [] => [[character]]
      | segment :: segments => (character :: segment) :: segments

/-- Two underscores stand for a point. -/
def pointed : List Char → List Char
  | '_' :: '_' :: rest => '.' :: pointed rest
  | character :: rest => character :: pointed rest
  | [] => []

/-- The path that a name leads to, whatever the case of its letters. A path has no empty
segment. -/
def path? (name : String) : Option (List String) :=
  let lower := (Text.trim name.toList).map Char.toLower
  if variablePrefix.isPrefixOf lower then
    let segments := splitPoints (Text.trim (pointed (lower.drop variablePrefix.length)))
    if segments.any (·.isEmpty) then none else some (segments.map String.ofList)
  else none

/-! Values. -/

def isBlank (character : Char) : Bool :=
  character = ' ' || character = '\t' || character = '\n' || character = '\r'
    || character = '\x0c'

def skipBlanks (text : List Char) : List Char := text.dropWhile isBlank

def isSeparator (character : Char) : Bool :=
  character = ',' || character = '[' || character = ']' || character = '\x7b'
    || character = '\x7d'

/-- Digits with a point among them, after a sign and before an exponent that may be absent. -/
def decimal? (text : List Char) : Option Json := do
  let (negative, text) := Toml.signed? text
  let (whole, rest) := Json.spanDigits text
  let (fraction, rest) := Json.spanDigits (← Toml.past? '.' rest)
  if whole.isEmpty && fraction.isEmpty then none
  else
    let exponent : Int ←
      match rest with
      | [] => some 0
      | 'e' :: rest | 'E' :: rest =>
          match Json.exponent? rest with
          | some (exponent, []) => some exponent
          | _ => none
      | _ => none
    let value :=
      Binary64.ofDecimal negative (Toml.ofDigits 10 (whole ++ fraction))
        (exponent - fraction.length)
    return (value.map fun value => Json.number (.float value)).getD .null

def integer? (text : List Char) : Option Json :=
  let (negative, text) := Toml.signed? text
  match Json.spanDigits text with
  | ([], _) => none
  | (digits, []) =>
      let magnitude := Toml.ofDigits 10 digits
      let value : Int := if negative then -magnitude else magnitude
      if -Nat.pow 2 63 ≤ value && value < Nat.pow 2 64 then some (Json.integer value) else none
  | _ => none

/-- A number if it reads as one, else the text itself. -/
def plain (text : List Char) : Json :=
  ((decimal? text).or (integer? text)).getD (.string (String.ofList text))

def isKeyCharacter (character : Char) : Bool :=
  character.isAlphanum || character == '_' || character == '-'

def key? (text : List Char) : Option (String × List Char) :=
  match text with
  | '"' :: rest => (Toml.basicTail? rest).map fun (key, rest) => (String.ofList key, rest)
  | _ =>
      let key := text.takeWhile isKeyCharacter
      if key.isEmpty then none
      else some (String.ofList key, text.dropWhile isKeyCharacter)

mutual

def value? : Nat → List Char → Option (Json × List Char)
  | 0, _ => none
  | fuel + 1, text => do
      let (value, rest) ←
        match skipBlanks text with
        | 't' :: 'r' :: 'u' :: 'e' :: rest => some (Json.bool true, rest)
        | 'f' :: 'a' :: 'l' :: 's' :: 'e' :: rest => some (.bool false, rest)
        | '[' :: rest => (items? fuel rest).map fun (items, rest) => (.array items, rest)
        | '\x7b' :: rest =>
            (entries? fuel [] rest).map fun (fields, rest) => (.object fields, rest)
        | '"' :: rest =>
            (Toml.basicTail? rest).map fun (text, rest) => (.string (String.ofList text), rest)
        | '\'' :: character :: '\'' :: rest =>
            some (.string (String.ofList [character]), rest)
        | '\'' :: _ => none
        | text =>
            some (plain (Text.trim (text.takeWhile fun character => !isSeparator character)),
              text.dropWhile fun character => !isSeparator character)
      return (value, skipBlanks rest)

def items? : Nat → List Char → Option (List Json × List Char)
  | 0, _ => none
  | _, ']' :: rest => some ([], rest)
  | fuel + 1, text => do
      let (item, rest) ← value? fuel text
      match rest with
      | ',' :: rest =>
          let (items, rest) ← items? fuel rest
          return (item :: items, rest)
      | ']' :: rest => return ([item], rest)
      | _ => none

/-- The entries of a table up to its closing brace; of two values for one key the later
stays. -/
def entries? : Nat → Json.Fields → List Char → Option (Json.Fields × List Char)
  | 0, _, _ => none
  | _, fields, '\x7d' :: rest => some (fields, rest)
  | fuel + 1, fields, text => do
      let (key, rest) ← key? (skipBlanks text)
      let (value, rest) ← value? fuel (← Toml.past? '=' (skipBlanks rest))
      let fields := Json.Fields.insert key value fields
      match rest with
      | ',' :: rest => entries? fuel fields rest
      | '\x7d' :: rest => return (fields, rest)
      | _ => none

end

def ofText (text : String) : Json :=
  match value? (2 * text.length + 2) text.toList with
  | some (value, []) => value
  | _ => .string text

/-! The layer of settings. -/

def nest (value : Json) : List String → Json
  | [] => value
  | key :: path => .object [(key, nest value path)]

def settings (environment : Environment) : Json :=
  environment.foldl
    (fun layer (name, text) =>
      match path? name with
      | none => layer
      | some path => layer.merge (nest (ofText text) path))
    (.object [])

def get? (environment : Environment) (name : String) : Option String :=
  List.lookup name environment

end Environment

end SignerLink
