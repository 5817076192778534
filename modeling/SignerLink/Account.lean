import SignerLink.Wallet
/-!
The account that the host application has selected.
-/

namespace SignerLink

structure Account where
  keyring : Option String := none
  address : Option String := none
  deriving DecidableEq, Repr

namespace Account

def ofWallet (wallet : Wallet) (address : String) : Account :=
  ⟨some wallet.keyring, some address⟩

/-- The wallet that holds the account's key; `none` for accounts kept in software. -/
def wallet? (account : Account) : Option Wallet := account.keyring.bind Wallet.ofKeyring?

def toJson (account : Account) : Json :=
  .object [("address", Json.optional .string account.address),
    ("keyringType", Json.optional .string account.keyring)]

def ofJson? (json : Json) : Option Account := do
  match ← json.record? [.required "keyringType", .required "address"] with
  | [keyring, address] =>
      let keyring ← Json.nullable? Json.asString? keyring
      let address ← Json.nullable? Json.asString? address
      return ⟨keyring, address⟩
  | _ => none

end Account

end SignerLink
