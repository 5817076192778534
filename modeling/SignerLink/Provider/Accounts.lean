import SignerLink.Provider.AutoConnect
/-!
Following the account that the host application publishes.
-/

namespace SignerLink

namespace Provider

variable {Bench : Type}

def watchAccounts (provider : Provider Bench) (account : Account) : Provider Bench × Nat :=
  let store := provider.stores.length
  let opened : AccountStore := { published := { value := account } }
  let provider := { provider with stores := provider.stores ++ [opened] }
  ((provider.spawn (.watcher store none)).1, store)

def isWatched (provider : Provider Bench) (store : Nat) : Bool :=
  provider.strands.any fun strand =>
    match strand.duty with
    | .watcher followed _ => followed == store
    | _ => false

def updateStore (provider : Provider Bench) (store : Nat)
    (change : AccountStore → AccountStore) : Provider Bench :=
  { provider with stores := provider.stores.modify store change }

def publishAccount (provider : Provider Bench) (store : Nat) (account : Account) :
    Provider Bench :=
  if provider.isWatched store then
    provider.updateStore store fun accounts =>
      { accounts with published := accounts.published.publish account }
  else provider

def closeStore (provider : Provider Bench) (store : Nat) : Provider Bench :=
  provider.updateStore store fun accounts => { accounts with closed := true }

end Provider

end SignerLink
