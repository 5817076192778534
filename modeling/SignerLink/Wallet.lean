import SignerLink.Json.Record
/-!
Wallet families and the host channels through which they are reached.
-/

namespace SignerLink

inductive Channel where
  | webHid
  | webUsb
  deriving DecidableEq, Repr

namespace Channel

def all : List Channel := [.webHid, .webUsb]

def displayName : Channel → String
  | .webHid => "WebHID"
  | .webUsb => "WebUSB"

def name : Channel → String
  | .webHid => "webhid"
  | .webUsb => "webusb"

def toJson (channel : Channel) : Json := .string channel.name

def ofJson? (json : Json) : Option Channel :=
  json.oneOf? (all.map fun channel => (channel.name, channel))

end Channel

inductive Wallet where
  | ledger
  | trezor
  | oneKey
  | lattice
  | qr
  deriving DecidableEq, Repr

namespace Wallet

def all : List Wallet := [.ledger, .trezor, .oneKey, .lattice, .qr]

def name : Wallet → String
  | .ledger => "ledger"
  | .trezor => "trezor"
  | .oneKey => "onekey"
  | .lattice => "lattice"
  | .qr => "qr"

def displayName : Wallet → String
  | .ledger => "Ledger"
  | .trezor => "Trezor"
  | .oneKey => "OneKey"
  | .lattice => "Lattice"
  | .qr => "QR-based hardware wallet"

def keyring : Wallet → String
  | .ledger => "Ledger Hardware"
  | .trezor => "Trezor Hardware"
  | .oneKey => "OneKey Hardware"
  | .lattice => "Lattice Hardware"
  | .qr => "QR Hardware Wallet Device"

/-- `none` for keyrings kept in software. -/
def ofKeyring? (keyring : String) : Option Wallet :=
  all.find? fun wallet => wallet.keyring == keyring

/-- Wallets without a channel cannot be reached from here. -/
def channel? : Wallet → Option Channel
  | .ledger => some .webHid
  | .trezor => some .webUsb
  | .oneKey | .lattice | .qr => none

/-- The on-device application that has to be open for signing. -/
def expectedApp? : Wallet → Option String
  | .ledger => some "Ethereum"
  | _ => none

def toJson (wallet : Wallet) : Json := .string wallet.name

def ofJson? (json : Json) : Option Wallet :=
  json.oneOf? (all.map fun wallet => (wallet.name, wallet))

def lowerAscii (text : String) : String := text.map Char.toLower

/-- Parses a name without regard to the case of its ASCII letters. -/
def parse? (text : String) : Option Wallet :=
  all.find? fun wallet => wallet.name == lowerAscii text

end Wallet

end SignerLink
