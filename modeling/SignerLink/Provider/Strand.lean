import SignerLink.Provider.Request
/-!
One step of a strand: everything it does from one point where it may wait to the next.
-/

namespace SignerLink

namespace Provider

variable {Bench : Type} [AdapterBench Bench]

def store? (provider : Provider Bench) (store : Nat) : Option AccountStore :=
  provider.stores[store]?

def canResume (provider : Provider Bench) (call : Call) (due : Nat) : Bool :=
  match call with
  | .joining strands _ => !strands.any provider.isAlive
  | _ => due ≤ provider.now

def canMove (provider : Provider Bench) (strand : Strand) : Bool :=
  match strand.call with
  | some (call, due) => provider.canResume call due
  | none =>
      match strand.duty with
      | .caller _ => true
      | .pump => provider.isCancelled || !provider.connection.inbox.isEmpty
      | .forwarder subscription =>
          (provider.host.subscription? subscription).any Subscription.canForward
      | .listener subscription =>
          !provider.isListener strand.id ||
            (provider.host.subscription? subscription).any Subscription.canReceive
      | .retry _ _ due => provider.isCancelled || due ≤ provider.now
      | .watcher store seen =>
          match seen, provider.store? store with
          | some version, some store =>
              provider.isCancelled || store.closed || store.published.version != version
          | _, _ => true

/-- A strand's work waits or is over; callers are answered and leave. -/
def proceed (provider : Provider Bench) (strand : Strand) (step : Step) : Provider Bench :=
  match step with
  | .waiting call milliseconds =>
      provider.put { strand with call := some (call, provider.now + milliseconds) }
  | .finished reply =>
      match strand.duty with
      | .caller _ =>
          { provider.remove strand.id with replies := provider.replies ++ [(strand.id, reply)] }
      | .retry _ _ _ => provider.remove strand.id
      | _ => provider.put { strand with call := none }

/-- A round of a listener, which ends when it is no longer the one that watches or when no
event will come. -/
def listenerStep (provider : Provider Bench) (strand : Strand) (subscription : SubscriptionId) :
    Provider Bench :=
  let ended : Provider Bench :=
    (provider.setHost (provider.host.cancel subscription)).remove strand.id
  if !provider.isListener strand.id then ended
  else
    match provider.host.receive subscription with
    | (_, .ended) => ended
    | (_, .pending) => provider
    | (host, .found event) =>
        let (provider, step) := (provider.setHost host).plugEvent event
        provider.proceed strand step

/-- A round of a watcher: it selects the account that its store holds, at once and after every
change. -/
def watcherStep (provider : Provider Bench) (strand : Strand) (store : Nat) (seen : Option Nat) :
    Provider Bench :=
  match provider.store? store with
  | none => provider.remove strand.id
  | some accounts =>
      if seen.isSome && provider.isCancelled then provider.remove strand.id
      else if seen = some accounts.published.version then
        if accounts.closed then provider.remove strand.id else provider
      else
        let (provider, step) := provider.selectAccount accounts.published.value
        provider.proceed { strand with duty := .watcher store (some accounts.published.version) }
          step

def advance (provider : Provider Bench) (strand : Strand) : Provider Bench :=
  match strand.call with
  | some (call, _) =>
      let (provider, step) := provider.resume call
      provider.proceed strand step
  | none =>
      match strand.duty with
      | .caller request =>
          let (provider, step) := provider.begin request
          provider.proceed strand step
      | .pump =>
          if provider.isCancelled then
            (provider.setConnection provider.connection.closeInbox).remove strand.id
          else provider.setConnection provider.connection.pump
      | .forwarder subscription =>
          let provider := provider.setHost (provider.host.forward subscription)
          if (provider.host.subscription? subscription).any Subscription.forwarding then provider
          else provider.remove strand.id
      | .listener subscription => provider.listenerStep strand subscription
      | .retry epoch trigger _ =>
          if provider.isCancelled then provider.remove strand.id
          else
            let (provider, step) := provider.evaluate epoch trigger
            provider.proceed strand step
      | .watcher store seen => provider.watcherStep strand store seen

end Provider

end SignerLink
