import SignerLink.Toml.Text
/-!
Values in TOML that hold no others: truth values, numbers, dates and times.
-/

namespace SignerLink

namespace Toml

abbrev ValueRead := Option (Json × List Char)

def word? (word : List Char) (value : Json) (text : List Char) : ValueRead :=
  if word.isPrefixOf text then some (value, text.drop word.length) else none

/-! Numbers. -/

abbrev DigitRead := Option (List Nat × List Char)

/-- The digits that go on a number. An underscore stands between two of them. -/
def moreDigits? (digit? : Char → Option Nat) : List Char → DigitRead
  | '_' :: character :: rest => do
      let digit ← digit? character
      let (digits, rest) ← moreDigits? digit? rest
      return (digit :: digits, rest)
  | character :: rest =>
      match digit? character with
      | some digit => do
          let (digits, rest) ← moreDigits? digit? rest
          return (digit :: digits, rest)
      | none => if character = '_' then none else some ([], character :: rest)
  | [] => some ([], [])

def digits? (digit? : Char → Option Nat) : List Char → DigitRead
  | character :: rest => do
      let digit ← digit? character
      let (digits, rest) ← moreDigits? digit? rest
      return (digit :: digits, rest)
  | [] => none

/-- Digits before a point; only a zero alone starts with zero. -/
def wholeDigits? : List Char → DigitRead
  | '0' :: rest => some ([0], rest)
  | text => digits? Json.digitValue? text

def ofDigits (base : Nat) (digits : List Nat) : Nat :=
  digits.foldl (fun value digit => base * value + digit) 0

def digitBelow? (base : Nat) (character : Char) : Option Nat :=
  (Json.hexValue? character).filter (· < base)

def greatestInteger : Int := Nat.pow 2 63 - 1

/-- Only integers of 64 bits with a sign are numbers. -/
def integer? (value : Int) : Option Json :=
  if -greatestInteger - 1 ≤ value && value ≤ greatestInteger then some (Json.integer value)
  else none

def basedInteger? (base : Nat) (text : List Char) : ValueRead := do
  let (digits, rest) ← digits? (digitBelow? base) text
  return (← integer? (ofDigits base digits), rest)

def signed? : List Char → Bool × List Char
  | '+' :: rest => (false, rest)
  | '-' :: rest => (true, rest)
  | text => (false, text)

def exponent? (text : List Char) : Option (Int × List Char) := do
  let (negative, text) := signed? text
  let (digits, rest) ← digits? Json.digitValue? text
  let value : Int := ofDigits 10 digits
  return (if negative then -value else value, rest)

/-- The number with these digits times a power of ten. One above the greatest finite number is
refused; one below the least reads as null. -/
def fractional? (negative : Bool) (digits : List Nat) (exponent : Int) : Option Json :=
  match Binary64.ofDecimal negative (ofDigits 10 digits) exponent with
  | some value => some (.number (.float value))
  | none => if negative then some .null else none

def exponential? (negative : Bool) (digits : List Nat) (places : Nat) (text : List Char) :
    ValueRead :=
  match text with
  | 'e' :: rest | 'E' :: rest => do
      let (exponent, rest) ← exponent? rest
      return (← fractional? negative digits (exponent - places), rest)
  | _ => do return (← fractional? negative digits (-places), text)

/-- Infinity and what is not a number read as null. -/
def unsigned? (negative : Bool) (text : List Char) : ValueRead :=
  match text with
  | 'i' :: 'n' :: 'f' :: rest | 'n' :: 'a' :: 'n' :: rest => some (.null, rest)
  | _ => do
      let (digits, rest) ← wholeDigits? text
      match rest with
      | '.' :: rest =>
          let (fraction, rest) ← digits? Json.digitValue? rest
          exponential? negative (digits ++ fraction) fraction.length rest
      | 'e' :: _ | 'E' :: _ => exponential? negative digits 0 rest
      | _ =>
          let value : Int := ofDigits 10 digits
          return (← integer? (if negative then -value else value), rest)

def number? : List Char → ValueRead
  | '0' :: 'x' :: rest => basedInteger? 16 rest
  | '0' :: 'o' :: rest => basedInteger? 8 rest
  | '0' :: 'b' :: rest => basedInteger? 2 rest
  | text =>
      let (negative, text) := signed? text
      unsigned? negative text

/-! Dates and times. -/

def twoDigits? (low high : Nat) : List Char → Option (Nat × List Char)
  | tens :: units :: rest => do
      let value := 10 * (← Json.digitValue? tens) + (← Json.digitValue? units)
      if low ≤ value && value ≤ high then some (value, rest) else none
  | _ => none

def past? (mark : Char) : List Char → Option (List Char)
  | character :: rest => if character = mark then some rest else none
  | [] => none

def isLeapYear (year : Nat) : Bool := year % 4 == 0 && (year % 100 != 0 || year % 400 == 0)

def daysInMonth (year month : Nat) : Nat :=
  if month = 2 then if isLeapYear year then 29 else 28
  else if month = 4 || month = 6 || month = 9 || month = 11 then 30
  else 31

def pastDate? (text : List Char) : Option (List Char) := do
  let (century, rest) ← twoDigits? 0 99 text
  let (year, rest) ← twoDigits? 0 99 rest
  let (month, rest) ← twoDigits? 1 12 (← past? '-' rest)
  let (_, rest) ← twoDigits? 1 (daysInMonth (100 * century + year) month) (← past? '-' rest)
  return rest

def pastFraction : List Char → List Char
  | '.' :: digit :: rest =>
      if digit.isDigit then rest.dropWhile Char.isDigit else '.' :: digit :: rest
  | text => text

/-- What follows a time of the day; a minute may have a leap second. -/
def pastTime? (text : List Char) : Option (List Char) := do
  let (_, rest) ← twoDigits? 0 23 text
  let (_, rest) ← twoDigits? 0 59 (← past? ':' rest)
  let (_, rest) ← twoDigits? 0 60 (← past? ':' rest)
  return pastFraction rest

def pastShift? (text : List Char) : Option (List Char) := do
  let (_, rest) ← twoDigits? 0 23 text
  let (_, rest) ← twoDigits? 0 59 (← past? ':' rest)
  return rest

def pastOffset : List Char → List Char
  | 'Z' :: rest | 'z' :: rest => rest
  | '+' :: rest => (pastShift? rest).getD ('+' :: rest)
  | '-' :: rest => (pastShift? rest).getD ('-' :: rest)
  | text => text

def pastMoment? (text : List Char) : Option (List Char) :=
  match pastDate? text with
  | none => pastTime? text
  | some rest =>
      match rest with
      | 'T' :: time | 't' :: time | ' ' :: time => some ((pastTime? time).elim rest pastOffset)
      | _ => some rest

/-- A moment is an object that holds the way it is written. -/
def moment? (text : List Char) : ValueRead := do
  let rest ← pastMoment? text
  let written := String.ofList (text.take (text.length - rest.length))
  return (.object [("moment", .string written)], rest)

def scalar? (text : List Char) : ValueRead :=
  match text with
  | '"' :: _ | '\'' :: _ => (text? text).map fun (value, rest) => (.string (.ofList value), rest)
  | 't' :: _ => word? ['t', 'r', 'u', 'e'] (.bool true) text
  | 'f' :: _ => word? ['f', 'a', 'l', 's', 'e'] (.bool false) text
  | _ => moment? text <|> number? text

end Toml

end SignerLink
