import SignerLink.Device
import SignerLink.Watched
/-!
A subscription to the plug events of one wallet's devices. Between the host and the receiver
stand two queues: the events that the forwarder has not read yet, of which the newest 64 are
kept, and those it has passed on.
-/

namespace SignerLink

structure Subscription where
  wallet : Wallet
  unread : List PlugEvent := []
  sourceOpen : Bool := true
  forwarding : Bool := true
  cancelled : Bool := false
  queued : List PlugEvent := []
  deriving DecidableEq, Repr

namespace Subscription

def capacity : Nat := 64

def inactive (wallet : Wallet) : Subscription :=
  { wallet := wallet, sourceOpen := false, forwarding := false, cancelled := true }

def isActive (subscription : Subscription) : Bool := !subscription.cancelled

/-- The host publishes an event; too many unread ones push the oldest out. -/
def publish (subscription : Subscription) (event : PlugEvent) : Subscription :=
  if subscription.forwarding && subscription.sourceOpen then
    let unread := subscription.unread ++ [event]
    { subscription with unread := unread.drop (unread.length - capacity) }
  else subscription

def closeSource (subscription : Subscription) : Subscription :=
  { subscription with sourceOpen := false }

def cancel (subscription : Subscription) : Subscription := { subscription with cancelled := true }

def canForward (subscription : Subscription) : Bool :=
  subscription.forwarding &&
    (subscription.cancelled || !subscription.unread.isEmpty || !subscription.sourceOpen)

/-- One round of the forwarder: it stops when cancelled or when the source has closed, and
passes on the next event if it is about the wallet's devices. -/
def forward (subscription : Subscription) : Subscription :=
  if !subscription.forwarding then subscription
  else if subscription.cancelled then { subscription with forwarding := false, unread := [] }
  else
    match subscription.unread with
    | [] =>
        if subscription.sourceOpen then subscription else { subscription with forwarding := false }
    | event :: rest =>
        if subscription.wallet.accepts event.device then
          { subscription with unread := rest, queued := subscription.queued ++ [event] }
        else { subscription with unread := rest }

/-- The next event; over once cancelled, or when the forwarder has stopped and nothing is
queued. -/
def receive (subscription : Subscription) : Subscription × Look PlugEvent :=
  if subscription.cancelled then (subscription, .ended)
  else
    match subscription.queued with
    | event :: rest => ({ subscription with queued := rest }, .found event)
    | [] => (subscription, if subscription.forwarding then .pending else .ended)

def canReceive (subscription : Subscription) : Bool :=
  subscription.cancelled || !subscription.queued.isEmpty || !subscription.forwarding

end Subscription

end SignerLink
