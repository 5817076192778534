import SignerLink.Json.Value
/-!
Reading JSON text. Of two fields with one key the later stays; text that nests values 128
levels deep is refused.
-/

namespace SignerLink

namespace Json

def skipBlanks : List Char → List Char
  | character :: rest =>
      if character = ' ' || character = '\n' || character = '\t' || character = '\r' then
        skipBlanks rest
      else character :: rest
  | [] => []

def digitValue? (character : Char) : Option Nat :=
  if '0' ≤ character && character ≤ '9' then some (character.toNat - 48) else none

def hexValue? (character : Char) : Option Nat :=
  if '0' ≤ character && character ≤ '9' then some (character.toNat - 48)
  else if 'a' ≤ character && character ≤ 'f' then some (character.toNat - 87)
  else if 'A' ≤ character && character ≤ 'F' then some (character.toNat - 55)
  else none

def spanDigits : List Char → List Nat × List Char
  | character :: rest =>
      match digitValue? character with
      | some digit =>
          let (digits, remaining) := spanDigits rest
          (digit :: digits, remaining)
      | none => ([], character :: rest)
  | [] => ([], [])

def naturalLimit : Nat := Nat.pow 2 64 - 1

/-- The leading digits that fit 64 bits, and how many were left out after them. -/
def gatherWhole (significand : Nat) : List Nat → Nat × Nat
  | [] => (significand, 0)
  | digit :: rest =>
      if 10 * significand + digit ≤ naturalLimit then gatherWhole (10 * significand + digit) rest
      else (significand, rest.length + 1)

def gatherFraction (significand : Nat) : List Nat → Nat × Nat
  | [] => (significand, 0)
  | digit :: rest =>
      if 10 * significand + digit ≤ naturalLimit then
        let (gathered, count) := gatherFraction (10 * significand + digit) rest
        (gathered, count + 1)
      else (significand, 0)

/-- Divides by `10 ^ 308` the given number of times, or until nothing is left. -/
def shrink (value : Binary64) : Nat → Option Binary64
  | 0 => some value
  | count + 1 =>
      if value.isZero then some value
      else do
        let power ← Binary64.ofNat (Nat.pow 10 308)
        let smaller ← value.divide power
        shrink smaller count

/-- The significand times a power of ten: the significand, the power and the result are each
rounded. -/
def scale (significand : Nat) (exponent : Int) : Option Binary64 := do
  let value ← Binary64.ofNat significand
  if exponent ≥ 0 then
    if exponent ≤ 308 then
      let power ← Binary64.ofNat (Nat.pow 10 exponent.toNat)
      value.multiply power
    else if value.isZero then some value else none
  else
    let chunks := ((-exponent).toNat - 1) / 308
    let smaller ← shrink value chunks
    if smaller.isZero then some smaller
    else
      let power ← Binary64.ofNat (Nat.pow 10 ((-exponent).toNat - 308 * chunks))
      smaller.divide power

def signed (negative : Bool) (value : Binary64) : Number :=
  .float (if negative then value.negate else value)

def exponent? (text : List Char) : Option (Int × List Char) :=
  let (negative, text) : Bool × List Char :=
    match text with
    | '+' :: rest => (false, rest)
    | '-' :: rest => (true, rest)
    | _ => (false, text)
  match spanDigits text with
  | ([], _) => none
  | (digits, rest) =>
      let value : Nat := digits.foldl (fun total digit => 10 * total + digit) 0
      some (if negative then -(value : Int) else value, rest)

def finishNumber (negative : Bool) (significand : Nat) (exponent : Int) (text : List Char) :
    Option (Number × List Char) :=
  match text with
  | 'e' :: rest | 'E' :: rest => do
      let (written, rest) ← exponent? rest
      let value ← scale significand (exponent + written)
      return (signed negative value, rest)
  | _ => do
      let value ← scale significand exponent
      return (signed negative value, text)

/-- The number after its sign. No zero leads another digit, and digits stand on both sides of
a point. -/
def magnitude? (negative : Bool) (text : List Char) : Option (Number × List Char) :=
  match spanDigits text with
  | ([], _) => none
  | (0 :: _ :: _, _) => none
  | (digits, rest) =>
      let (significand, dropped) := gatherWhole 0 digits
      match rest with
      | '.' :: rest =>
          match spanDigits rest with
          | ([], _) => none
          | (fraction, rest) =>
              let (significand, count) := gatherFraction significand fraction
              finishNumber negative significand (dropped - count) rest
      | 'e' :: _ | 'E' :: _ => finishNumber negative significand dropped rest
      | _ =>
          if dropped > 0 then finishNumber negative significand dropped rest
          else if negative then
            if significand == 0 || significand > Nat.pow 2 63 then
              finishNumber negative significand 0 rest
            else some (.integer (-significand), rest)
          else some (.integer significand, rest)

def number? : List Char → Option (Number × List Char)
  | '-' :: rest => magnitude? true rest
  | text => magnitude? false text

def unit? : List Char → Option (Nat × List Char)
  | first :: second :: third :: fourth :: rest => do
      let first ← hexValue? first
      let second ← hexValue? second
      let third ← hexValue? third
      let fourth ← hexValue? fourth
      return (((first * 16 + second) * 16 + third) * 16 + fourth, rest)
  | _ => none

/-- The character of a `\u` escape; a high surrogate needs a low one right after it. -/
def escapedUnit? (text : List Char) : Option (Char × List Char) := do
  let (unit, rest) ← unit? text
  if 0xD800 ≤ unit && unit ≤ 0xDBFF then
    match rest with
    | '\\' :: 'u' :: rest =>
        let (low, rest) ← unit? rest
        if 0xDC00 ≤ low && low ≤ 0xDFFF then
          return (Char.ofNat (0x10000 + (unit - 0xD800) * 0x400 + (low - 0xDC00)), rest)
        else none
    | _ => none
  else if 0xDC00 ≤ unit && unit ≤ 0xDFFF then none
  else return (Char.ofNat unit, rest)

def stringTail? : Nat → List Char → List Char → Option (String × List Char)
  | 0, _, _ => none
  | fuel + 1, reversed, text =>
      match text with
      | [] => none
      | '"' :: rest => some (String.ofList reversed.reverse, rest)
      | '\\' :: mark :: rest =>
          let plain (character : Char) := stringTail? fuel (character :: reversed) rest
          if mark = '"' then plain '"'
          else if mark = '\\' then plain '\\'
          else if mark = '/' then plain '/'
          else if mark = 'b' then plain '\x08'
          else if mark = 'f' then plain '\x0c'
          else if mark = 'n' then plain '\n'
          else if mark = 'r' then plain '\r'
          else if mark = 't' then plain '\t'
          else if mark = 'u' then
            match escapedUnit? rest with
            | some (character, rest) => stringTail? fuel (character :: reversed) rest
            | none => none
          else none
      | character :: rest =>
          if character.toNat < 32 || character = '\\' then none
          else stringTail? fuel (character :: reversed) rest

def string? (text : List Char) : Option (String × List Char) :=
  match text with
  | '"' :: rest => stringTail? (rest.length + 1) [] rest
  | _ => none

def literal? (word : String) (value : Json) (text : List Char) : Option (Json × List Char) :=
  if word.toList.isPrefixOf text then some (value, text.drop word.length) else none

mutual

def value? (fuel depth : Nat) (text : List Char) : Option (Json × List Char) :=
  match fuel with
  | 0 => none
  | fuel + 1 =>
      match skipBlanks text with
      | '[' :: rest =>
          match depth with
          | 0 | 1 => none
          | depth + 1 =>
              match skipBlanks rest with
              | ']' :: rest => some (.array [], rest)
              | rest => (items? fuel depth [] rest).map fun (items, rest) => (.array items, rest)
      | '\x7b' :: rest =>
          match depth with
          | 0 | 1 => none
          | depth + 1 =>
              match skipBlanks rest with
              | '\x7d' :: rest => some (.object [], rest)
              | rest => (fields? fuel depth [] rest).map fun (fields, rest) =>
                  (.object fields, rest)
      | '"' :: rest => (string? ('"' :: rest)).map fun (value, rest) => (.string value, rest)
      | 't' :: rest => literal? "true" (.bool true) ('t' :: rest)
      | 'f' :: rest => literal? "false" (.bool false) ('f' :: rest)
      | 'n' :: rest => literal? "null" .null ('n' :: rest)
      | text => (number? text).map fun (value, rest) => (.number value, rest)

def items? (fuel depth : Nat) (reversed : List Json) (text : List Char) :
    Option (List Json × List Char) :=
  match fuel with
  | 0 => none
  | fuel + 1 => do
      let (item, rest) ← value? fuel depth text
      match skipBlanks rest with
      | ',' :: rest => items? fuel depth (item :: reversed) rest
      | ']' :: rest => some ((item :: reversed).reverse, rest)
      | _ => none

def fields? (fuel depth : Nat) (fields : Fields) (text : List Char) :
    Option (Fields × List Char) :=
  match fuel with
  | 0 => none
  | fuel + 1 => do
      let (key, rest) ← string? (skipBlanks text)
      match skipBlanks rest with
      | ':' :: rest =>
          let (value, rest) ← value? fuel depth rest
          let fields := Fields.insert key value fields
          match skipBlanks rest with
          | ',' :: rest => fields? fuel depth fields rest
          | '\x7d' :: rest => some (fields, rest)
          | _ => none
      | _ => none

end

def parse? (text : String) : Option Json := do
  let characters := text.toList
  let (value, rest) ← value? (2 * characters.length + 2) 128 characters
  if (skipBlanks rest).isEmpty then some value else none

end Json

end SignerLink
