import SignerLink.Error.Code
/-!
Status words inside a message: `0x` and four hexadecimal digits after it.
-/

namespace SignerLink

namespace StatusWord

def digit? (character : Char) : Option Nat :=
  if '0' ≤ character && character ≤ '9' then some (character.toNat - 48)
  else if 'a' ≤ character && character ≤ 'f' then some (character.toNat - 87)
  else if 'A' ≤ character && character ≤ 'F' then some (character.toNat - 55)
  else none

def read? : List Char → Option UInt16
  | first :: second :: third :: fourth :: _ => do
      let first ← digit? first
      let second ← digit? second
      let third ← digit? third
      let fourth ← digit? fourth
      return (((first * 16 + second) * 16 + third) * 16 + fourth).toUInt16
  | _ => none

def allIn : List Char → List UInt16
  | '0' :: 'x' :: rest =>
      match read? rest with
      | some word => word :: allIn rest
      | none => allIn rest
  | _ :: rest => allIn rest
  | [] => []

def digit (value : Nat) : Char :=
  if value < 10 then Char.ofNat (48 + value) else Char.ofNat (87 + value)

def text (status : UInt16) : List Char :=
  let value := status.toNat
  [digit (value / 4096), digit (value / 256 % 16), digit (value / 16 % 16), digit (value % 16)]

end StatusWord

end SignerLink
