/-!
Finite binary64 numbers in exact integer arithmetic: rounding a ratio to the nearest number,
products and quotients, and the shortest decimal text that reads back.
-/

namespace SignerLink

/-- The number `mantissa * 2 ^ exponent`, negated when `negative`. A nonzero number has 53
significant bits unless its exponent is the least one. -/
structure Binary64 where
  negative : Bool
  mantissa : Nat
  exponent : Int
  deriving DecidableEq, Repr

namespace Binary64

def leastExponent : Int := -1074

def greatestExponent : Int := 971

def zero (negative : Bool) : Binary64 := ⟨negative, 0, leastExponent⟩

def isZero (value : Binary64) : Bool := value.mantissa == 0

/-- Nearest natural number to a ratio, a half going to the even neighbour. -/
def roundRatio (numerator denominator : Nat) : Nat :=
  let floor := numerator / denominator
  let twice := 2 * (numerator % denominator)
  if twice > denominator || (twice == denominator && floor % 2 == 1) then floor + 1 else floor

def shiftRatio (numerator denominator : Nat) (exponent : Int) : Nat × Nat :=
  if exponent ≥ 0 then (numerator, denominator * Nat.pow 2 exponent.toNat)
  else (numerator * Nat.pow 2 (-exponent).toNat, denominator)

def ofRatio (negative : Bool) (numerator denominator : Nat) : Option Binary64 :=
  if numerator == 0 then some (zero negative)
  else
    let guess : Int := (numerator.log2 : Int) - (denominator.log2 : Int) - 52
    let scaled := shiftRatio numerator denominator guess
    let wanted := if scaled.1 / scaled.2 < Nat.pow 2 52 then guess - 1 else guess
    let exponent := max wanted leastExponent
    let exact := shiftRatio numerator denominator exponent
    let mantissa := roundRatio exact.1 exact.2
    let carried := mantissa == Nat.pow 2 53
    let exponent := if carried then exponent + 1 else exponent
    let mantissa := if carried then Nat.pow 2 52 else mantissa
    if exponent > greatestExponent then none else some ⟨negative, mantissa, exponent⟩

def ofNat (value : Nat) : Option Binary64 := ofRatio false value 1

/-- Nearest number to a decimal. Exponents far outside the range need no power of ten. -/
def ofDecimal (negative : Bool) (significand : Nat) (exponent : Int) : Option Binary64 :=
  let magnitude : Int := exponent + (Nat.toDigits 10 significand).length
  if significand == 0 || magnitude < -400 then some (zero negative)
  else if magnitude > 400 then none
  else if exponent ≥ 0 then ofRatio negative (significand * Nat.pow 10 exponent.toNat) 1
  else ofRatio negative significand (Nat.pow 10 (-exponent).toNat)

def negate (value : Binary64) : Binary64 := { value with negative := !value.negative }

def ratio (value : Binary64) : Nat × Nat :=
  if value.exponent ≥ 0 then (value.mantissa * Nat.pow 2 value.exponent.toNat, 1)
  else (value.mantissa, Nat.pow 2 (-value.exponent).toNat)

def multiply (left right : Binary64) : Option Binary64 :=
  ofRatio (left.negative != right.negative)
    (left.ratio.1 * right.ratio.1) (left.ratio.2 * right.ratio.2)

def divide (left right : Binary64) : Option Binary64 :=
  if right.isZero then none
  else ofRatio (left.negative != right.negative)
    (left.ratio.1 * right.ratio.2) (left.ratio.2 * right.ratio.1)

/-- Nearest multiple of `10 ^ place` to a number, counted in that unit, if it reads back as
the number: it lies between the midpoints to the neighbours, which count for an even
mantissa only. -/
def gridPoint? (value : Binary64) (place : Int) : Option Nat :=
  let narrow := value.mantissa == Nat.pow 2 52 && value.exponent > leastExponent
  let quarter := value.exponent - 2
  let unit : Nat × Nat :=
    let binary : Nat × Nat :=
      if quarter ≥ 0 then (Nat.pow 2 quarter.toNat, 1) else (1, Nat.pow 2 (-quarter).toNat)
    if place ≥ 0 then (binary.1, binary.2 * Nat.pow 10 place.toNat)
    else (binary.1 * Nat.pow 10 (-place).toNat, binary.2)
  let center := 4 * value.mantissa
  let low := if narrow then center - 1 else center - 2
  let high := center + 2
  let point := roundRatio (center * unit.1) unit.2
  let inside : Nat → Bool := fun candidate =>
    let position := candidate * unit.2
    if value.mantissa % 2 == 0 then low * unit.1 ≤ position && position ≤ high * unit.1
    else low * unit.1 < position && position < high * unit.1
  if point > 0 && inside point then some point else none

def searchGrid (value : Binary64) : Nat → Int → Nat × Int
  | 0, place => (0, place)
  | fuel + 1, place =>
      match value.gridPoint? place with
      | some point => (point, place)
      | none => searchGrid value fuel (place - 1)

/-- Fewest digits that read back, with the place of the last one. -/
def shortest (value : Binary64) : Nat × Int :=
  let magnitude : Int := (value.mantissa.log2 : Int) + value.exponent + 1
  searchGrid value 40 (magnitude * 30103 / 100000 + 2)

def zeros (count : Nat) : String := String.ofList (List.replicate count '0')

/-- Plain for decimal exponents from -5 to 15, always with a fraction; otherwise one digit, the
rest after a point, and a signed exponent. -/
def text (value : Binary64) : String :=
  let sign := if value.negative then "-" else ""
  if value.isZero then sign ++ "0.0"
  else
    let (point, place) := value.shortest
    let digits := Nat.toDigits 10 point
    let exponent : Int := place + digits.length - 1
    if -5 ≤ exponent && exponent ≤ 15 then
      if place ≥ 0 then sign ++ String.ofList digits ++ zeros place.toNat ++ ".0"
      else if exponent ≥ 0 then
        let whole := exponent.toNat + 1
        sign ++ String.ofList (digits.take whole) ++ "." ++ String.ofList (digits.drop whole)
      else sign ++ "0." ++ zeros (-exponent - 1).toNat ++ String.ofList digits
    else
      let fraction := digits.drop 1
      let tail := if fraction.isEmpty then "" else "." ++ String.ofList fraction
      let mark := if exponent < 0 then "e-" else "e+"
      sign ++ String.ofList (digits.take 1) ++ tail ++ mark ++ toString exponent.natAbs

end Binary64

end SignerLink
