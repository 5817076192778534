import SignerLink.Proofs.Transport.Forwarding
/-!
What may become of a subscription while others use its host. Events are published on it and its
source may close, but whoever receives from it is the only one who takes events, and nobody else
ends the subscription or forwards in the forwarder's place.
-/

namespace SignerLink

namespace Subscription

variable {subscription : Subscription}

/-- Not cancelled, and forwarded for as long as the source is open. -/
structure IsFed (subscription : Subscription) : Prop where
  live : subscription.cancelled = false
  forwarded : subscription.sourceOpen = true → subscription.forwarding = true

@[simp] theorem forward_sourceOpen :
    subscription.forward.sourceOpen = subscription.sourceOpen := by
  simp only [forward]
  repeat' split
  all_goals rfl

theorem IsFed.forward (fed : subscription.IsFed) : subscription.forward.IsFed where
  live := by rw [forward_cancelled, fed.live]
  forwarded opened := by
    rw [forward_sourceOpen] at opened
    have forwarding := fed.forwarded opened
    simp only [Subscription.forward, forwarding, fed.live, opened, Bool.not_true,
      Bool.false_eq_true, if_false, if_true]
    split
    · exact forwarding
    · split <;> rfl

theorem forwarding_of_forward (forwarding : subscription.forward.forwarding = true) :
    subscription.forwarding = true := by
  cases idle : subscription.forwarding with
  | true => rfl
  | false =>
      rw [forward_idle idle, idle] at forwarding
      cases forwarding

theorem IsFed.source_closed (fed : subscription.IsFed)
    (ended : subscription.receive.2 = .ended) : subscription.sourceOpen = false := by
  cases opened : subscription.sourceOpen with
  | false => rfl
  | true =>
      simp only [receive, fed.live, fed.forwarded opened, Bool.false_eq_true, if_false, if_true]
        at ended
      split at ended <;> cases ended

/-- What the rest of the world makes of a subscription. Events are published on it, and its source
may close; others may do with it what they like only if nobody of the provider listens. -/
structure Becomes (listened : Prop) (before after : Subscription) : Prop where
  wallet : after.wallet = before.wallet
  sourceOpen : after.sourceOpen = true → before.sourceOpen = true
  cancelled : listened → after.cancelled = before.cancelled
  forwarding : listened → after.forwarding = before.forwarding

theorem Becomes.refl (listened : Prop) (subscription : Subscription) :
    subscription.Becomes listened subscription := ⟨rfl, id, fun _ => rfl, fun _ => rfl⟩

theorem Becomes.trans {listened : Prop} {before middle after : Subscription}
    (first : before.Becomes listened middle) (rest : middle.Becomes listened after) :
    before.Becomes listened after where
  wallet := rest.wallet.trans first.wallet
  sourceOpen opened := first.sourceOpen (rest.sourceOpen opened)
  cancelled listens := (rest.cancelled listens).trans (first.cancelled listens)
  forwarding listens := (rest.forwarding listens).trans (first.forwarding listens)

theorem Becomes.closed {listened : Prop} {before after : Subscription}
    (becomes : before.Becomes listened after) (closed : before.sourceOpen = false) :
    after.sourceOpen = false := by
  cases opened : after.sourceOpen with
  | false => rfl
  | true =>
      have still := becomes.sourceOpen opened
      rw [closed] at still
      cases still

theorem Becomes.isFed {listened : Prop} {before after : Subscription}
    (becomes : before.Becomes listened after) (listens : listened) (fed : before.IsFed) :
    after.IsFed where
  live := (becomes.cancelled listens).trans fed.live
  forwarded opened :=
    (becomes.forwarding listens).trans (fed.forwarded (becomes.sourceOpen opened))

theorem receive_becomes (listened : Prop) :
    subscription.Becomes listened subscription.receive.1 := by
  simp only [receive]
  repeat' split
  all_goals exact ⟨rfl, id, fun _ => rfl, fun _ => rfl⟩

theorem publish_becomes (listened : Prop) (event : PlugEvent) :
    subscription.Becomes listened (subscription.publish event) := by
  simp only [publish]
  split
  all_goals exact ⟨rfl, id, fun _ => rfl, fun _ => rfl⟩

theorem closeSource_becomes (listened : Prop) :
    subscription.Becomes listened subscription.closeSource where
  wallet := rfl
  sourceOpen := nofun
  cancelled _ := rfl
  forwarding _ := rfl

theorem cancel_becomes {listened : Prop} (nobody : ¬listened) :
    subscription.Becomes listened subscription.cancel :=
  ⟨rfl, id, fun listens => absurd listens nobody, fun listens => absurd listens nobody⟩

theorem forward_becomes {listened : Prop} (nobody : ¬listened) :
    subscription.Becomes listened subscription.forward :=
  ⟨forward_wallet, fun opened => forward_sourceOpen.symm.trans opened,
    fun listens => absurd listens nobody, fun listens => absurd listens nobody⟩

end Subscription

/-- The host has changed, but what listeners receive from is not interfered with. -/
def MemoryHost.Spares (listened : List SubscriptionId) (before after : MemoryHost) : Prop :=
  ∀ id subscription, before.subscription? id = some subscription →
    ∃ later, after.subscription? id = some later ∧ subscription.Becomes (id ∈ listened) later

namespace MemoryHost

variable {listened : List SubscriptionId} {before middle after : MemoryHost}

theorem Spares.of_same (same : after.subscriptions = before.subscriptions) :
    before.Spares listened after := fun id _ known =>
  ⟨_, subscription?_congr same known, .refl (id ∈ listened) _⟩

theorem Spares.trans (first : before.Spares listened middle)
    (rest : middle.Spares listened after) : before.Spares listened after := by
  intro id subscription known
  obtain ⟨between, found, becomes⟩ := first id subscription known
  obtain ⟨later, kept, becomesLater⟩ := rest id between found
  exact ⟨later, kept, becomes.trans becomesLater⟩

theorem Spares.subscribed (wallet : Wallet) :
    before.Spares listened (before.subscribe wallet).1 := by
  intro id subscription known
  have bound : id < before.subscriptions.length := (List.getElem?_eq_some_iff.mp known).1
  exact ⟨subscription, (List.getElem?_append_left bound).trans known, .refl _ _⟩

theorem Spares.updated {id : SubscriptionId} {change : Subscription → Subscription}
    (becomes : ∀ subscription, before.subscription? id = some subscription →
      subscription.Becomes (id ∈ listened) (change subscription)) :
    before.Spares listened (before.update id change) := by
  intro other subscription known
  refine ⟨_, update_subscription? id change known, ?_⟩
  split
  next same =>
    subst same
    exact becomes subscription known
  next => exact .refl _ _

theorem Spares.received (id : SubscriptionId) : before.Spares listened (before.receive id).1 := by
  simp only [receive]
  split
  next => exact .of_same rfl
  next own found =>
    refine .updated fun subscription known => ?_
    cases found.symm.trans known
    exact Subscription.receive_becomes _

theorem Spares.emitted (channel : Channel) (event : PlugEvent) :
    before.Spares listened (before.emit channel event).1 := by
  intro id subscription known
  have kept : (before.emit channel event).1.subscription? id =
      some (if listensOn channel subscription then subscription.publish event else subscription) :=
    List.getElem?_map.trans (congrArg _ known)
  refine ⟨_, kept, ?_⟩
  split
  · exact Subscription.publish_becomes _ event
  · exact .refl _ _

/-- Whatever happens at the host, listeners are spared while nobody ends their subscriptions or
forwards in the forwarder's place. -/
theorem act_spares {action : HostAction}
    (apart : ∀ id ∈ listened, action ≠ .cancel id ∧ action ≠ .forward id) :
    before.Spares listened (before.act action) := by
  cases action with
  | plugIn channel device =>
      exact (Spares.of_same (before.pair_subscriptions channel device)).trans (.emitted _ _)
  | unplug channel device =>
      have unpaired : before.Spares listened (before.unpair channel device) := .of_same rfl
      exact unpaired.trans (.emitted _ _)
  | emit channel event => exact .emitted channel event
  | subscribe wallet => exact .subscribed wallet
  | cancel id =>
      exact .updated fun _ _ =>
        Subscription.cancel_becomes fun listens => (apart id listens).1 rfl
  | forward id =>
      exact .updated fun _ _ =>
        Subscription.forward_becomes fun listens => (apart id listens).2 rfl
  | receive id => exact .received id
  | pair channel device => exact .of_same (before.pair_subscriptions channel device)
  | enumerate channel => exact .of_same (before.enumerate_subscriptions channel)
  | choose channel => exact .of_same (before.choose_subscriptions channel)
  | deliver selection => exact .of_same (before.deliver_subscriptions selection)
  | setAvailable _ _ | unpair _ _ | queueResponse _ | failEnumeration _ | setLatency _ =>
      exact .of_same rfl

def closeSource (host : MemoryHost) (id : SubscriptionId) : MemoryHost :=
  host.update id Subscription.closeSource

theorem closeSource_spares (id : SubscriptionId) :
    before.Spares listened (before.closeSource id) :=
  .updated fun _ _ => Subscription.closeSource_becomes _

end MemoryHost

end SignerLink
