import Mathlib.Algebra.BigOperators.Group.List.Basic
import Mathlib.Algebra.Order.Group.Multiset
import SignerLink.Provider.Accounts
import SignerLink.Provider.Clock
import SignerLink.Proofs.Connection.Decomposition
/-!
Runs of a provider. Its strands move in any order, and the application, the host and the devices
do what they like in between.
-/

namespace SignerLink

def Call.onConnection : Call → Multiset ConnectionCall
  | .attempt call | .autoConnect _ _ _ call => {.attempt call}
  | .readiness call => {.readiness call}
  | .disconnect call => {.disconnect call}
  | .operation call => {.operation call}
  | .permission _ _ _ | .accountCheck _ _ | .attachCheck _ _ _ | .search _ _ | .host _ _
  | .joining _ _ => 0

def Strand.onConnection (strand : Strand) : Multiset ConnectionCall :=
  strand.call.elim 0 fun waiting => waiting.1.onConnection

namespace Provider

variable {Bench : Type}

def Step.onConnection : Step → Multiset ConnectionCall
  | .waiting call _ => call.onConnection
  | .finished _ => 0

def onConnection (provider : Provider Bench) : Multiset ConnectionCall :=
  (provider.strands.map Strand.onConnection).sum

def run (provider : Provider Bench) : Run Bench :=
  ⟨provider.connection, provider.onConnection, provider.isCancelled⟩

variable [AdapterBench Bench]

inductive Transition (evolves : Bench → Bench → Prop) :
    Provider Bench → Provider Bench → Prop where
  | request (provider : Provider Bench) (request : Request) :
      Transition evolves provider (provider.spawn (.caller request)).1
  | advance (provider : Provider Bench) (strand : Strand) :
      strand ∈ provider.strands → provider.canMove strand = true →
      Transition evolves provider (provider.advance strand).letGo
  | wait (provider : Provider Bench) (later : Nat) :
      provider.now ≤ later → Transition evolves provider { provider with now := later }
  | react (provider : Provider Bench) (event : ConnectionEvent) :
      event.isEnd = false →
      Transition evolves provider (provider.setConnection (provider.connection.react event))
  | onBench (provider : Provider Bench) (change : Bench → Bench × List Signal) :
      evolves provider.connection.bench (change provider.connection.bench).1 →
      Transition evolves provider (provider.setConnection (provider.connection.onBench change))
  | onHost (provider : Provider Bench) (host : MemoryHost) :
      Transition evolves provider (provider.setHost host)
  | subscribe (provider : Provider Bench) (wallet : Wallet) :
      Transition evolves provider (provider.subscribe wallet).1
  | resetPermission (provider : Provider Bench) :
      Transition evolves provider (provider.setPermission provider.permission.reset)
  | startPump (provider : Provider Bench) : Transition evolves provider provider.startPump.1
  | stopListening (provider : Provider Bench) : Transition evolves provider provider.stopListening
  | watchAccounts (provider : Provider Bench) (account : Account) :
      Transition evolves provider (provider.watchAccounts account).1
  | publishAccount (provider : Provider Bench) (store : Nat) (account : Account) :
      Transition evolves provider (provider.publishAccount store account)
  | closeStore (provider : Provider Bench) (store : Nat) :
      Transition evolves provider (provider.closeStore store)
  | cancel (provider : Provider Bench) : Transition evolves provider provider.cancel
  | drop (provider : Provider Bench) : Transition evolves provider provider.drop

structure IsNew (provider : Provider Bench) : Prop where
  connection : provider.connection = { bench := provider.connection.bench }
  strands : provider.strands = []

def Reachable (evolves : Bench → Bench → Prop) (provider : Provider Bench) : Prop :=
  ∃ first : Provider Bench, first.IsNew ∧
    Relation.ReflTransGen (Transition evolves) first provider

end Provider

end SignerLink
