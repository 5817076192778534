import SignerLink.Proofs.Transport.Agreement
/-!
Plug events on their way to a receiver. An event is published on a channel, read by the forwarder
of each subscription to it, and passed on if it is about the wallet's devices; later it is
received. While the forwarder keeps up, every event of the wallet's devices is received, waits in
one of the two queues, or was cut off by the end of the subscription, and none overtakes another.
-/

namespace SignerLink

def Wallet.wants (wallet : Wallet) (event : PlugEvent) : Bool := wallet.accepts event.device

/-! One subscription. -/

inductive SubscriptionAction where
  | publish (event : PlugEvent)
  | forward
  | receive
  | cancel
  deriving DecidableEq, Repr

def SubscriptionAction.published? : SubscriptionAction → Option PlugEvent
  | .publish event => some event
  | .forward | .receive | .cancel => none

namespace Subscription

variable {subscription : Subscription} {wallet : Wallet} {sent got : List PlugEvent}

def act (subscription : Subscription) : SubscriptionAction → Subscription
  | .publish event => subscription.publish event
  | .forward => subscription.forward
  | .receive => subscription.receive.1
  | .cancel => subscription.cancel

def taken (subscription : Subscription) : SubscriptionAction → List PlugEvent
  | .receive => subscription.receive.2.toList
  | .publish _ | .forward | .cancel => []

def after (subscription : Subscription) (actions : List SubscriptionAction) : Subscription :=
  actions.foldl act subscription

def received (subscription : Subscription) : List SubscriptionAction → List PlugEvent
  | [] => []
  | action :: later => subscription.taken action ++ (subscription.act action).received later

/-- No event is published that pushes an unread one out. -/
def keepsUp (subscription : Subscription) : List SubscriptionAction → Bool
  | [] => true
  | action :: later =>
      (action.published?.isNone || subscription.unread.length < capacity) &&
        (subscription.act action).keepsUp later

theorem publish_idle (event : PlugEvent) (idle : subscription.forwarding = false) :
    subscription.publish event = subscription := by
  simp [publish, idle]

theorem forward_idle (idle : subscription.forwarding = false) :
    subscription.forward = subscription := by
  simp [forward, idle]

@[simp] theorem publish_wallet (event : PlugEvent) :
    (subscription.publish event).wallet = subscription.wallet := by
  simp only [publish]
  split <;> rfl

@[simp] theorem publish_cancelled (event : PlugEvent) :
    (subscription.publish event).cancelled = subscription.cancelled := by
  simp only [publish]
  split <;> rfl

@[simp] theorem forward_wallet : subscription.forward.wallet = subscription.wallet := by
  simp only [forward]
  repeat' split
  all_goals rfl

@[simp] theorem forward_cancelled : subscription.forward.cancelled = subscription.cancelled := by
  simp only [forward]
  repeat' split
  all_goals rfl

@[simp] theorem receive_wallet : subscription.receive.1.wallet = subscription.wallet := by
  simp only [receive]
  repeat' split
  all_goals rfl

@[simp] theorem receive_cancelled :
    subscription.receive.1.cancelled = subscription.cancelled := by
  simp only [receive]
  repeat' split
  all_goals rfl

@[simp] theorem act_wallet (action : SubscriptionAction) :
    (subscription.act action).wallet = subscription.wallet := by
  cases action <;> simp [act, cancel]

theorem act_cancelled (action : SubscriptionAction) (cancelled : subscription.cancelled = true) :
    (subscription.act action).cancelled = true := by
  cases action <;> simp [act, cancel, cancelled]

theorem taken_cancelled (action : SubscriptionAction)
    (cancelled : subscription.cancelled = true) : subscription.taken action = [] := by
  cases action <;> simp [taken, receive, cancelled, Look.toList]

theorem received_cancelled (actions : List SubscriptionAction)
    (cancelled : subscription.cancelled = true) : subscription.received actions = [] := by
  induction actions generalizing subscription with
  | nil => rfl
  | cons action later ih =>
      rw [received, taken_cancelled action cancelled, ih (act_cancelled action cancelled)]
      rfl

theorem received_append (earlier later : List SubscriptionAction) :
    subscription.received (earlier ++ later) =
      subscription.received earlier ++ (subscription.after earlier).received later := by
  induction earlier generalizing subscription with
  | nil => rfl
  | cons action _ ih =>
      rw [List.cons_append, received, ih, received, List.append_assoc]
      rfl

/-- Every published event that the wallet wants is accounted for, in the order of publication. -/
structure Conserves (wallet : Wallet) (sent got : List PlugEvent)
    (subscription : Subscription) : Prop where
  own : subscription.wallet = wallet
  forwarding : subscription.forwarding = true
  sourceOpen : subscription.sourceOpen = true
  accounted : got ++ subscription.queued ++ subscription.unread.filter wallet.wants =
    sent.filter wallet.wants

/-- Nothing is lost until the subscription is cancelled, and nothing is ever received out of
turn. -/
structure Relays (wallet : Wallet) (sent got : List PlugEvent)
    (subscription : Subscription) : Prop where
  inTurn : got <+: sent.filter wallet.wants
  conserves : subscription.cancelled = false → subscription.Conserves wallet sent got

theorem Conserves.inTurn (conserves : subscription.Conserves wallet sent got) :
    got <+: sent.filter wallet.wants := by
  rw [← conserves.accounted, List.append_assoc]
  exact List.prefix_append _ _

theorem Conserves.publish (conserves : subscription.Conserves wallet sent got)
    (event : PlugEvent) (keepsUp : subscription.unread.length < capacity) :
    (subscription.publish event).Conserves wallet (sent ++ [event]) got := by
  have kept : (subscription.unread ++ [event]).length - capacity = 0 := by
    simp only [List.length_append, List.length_singleton]
    omega
  have shown : subscription.publish event =
      { subscription with unread := subscription.unread ++ [event] } := by
    simp only [Subscription.publish, conserves.forwarding, conserves.sourceOpen, Bool.and_self,
      if_true, kept, List.drop_zero]
  rw [shown]
  refine ⟨conserves.own, conserves.forwarding, conserves.sourceOpen, ?_⟩
  rw [List.filter_append, List.filter_append, ← conserves.accounted]
  simp only [List.append_assoc]

theorem Conserves.forward (conserves : subscription.Conserves wallet sent got)
    (live : subscription.cancelled = false) :
    subscription.forward.Conserves wallet sent got := by
  have accounted := conserves.accounted
  simp only [Subscription.forward, conserves.forwarding, live, conserves.sourceOpen, Bool.not_true,
    Bool.false_eq_true, if_false, if_true]
  cases unread : subscription.unread with
  | nil => exact conserves
  | cons event rest =>
      rw [unread] at accounted
      by_cases wanted : wallet.wants event = true
      · rw [List.filter_cons_of_pos wanted] at accounted
        simp only [conserves.own, show wallet.accepts event.device = true from wanted, if_true]
        exact ⟨rfl, rfl, rfl, by simpa using accounted⟩
      · rw [List.filter_cons_of_neg wanted] at accounted
        simp only [conserves.own, show ¬wallet.accepts event.device = true from wanted,
          Bool.false_eq_true, if_false]
        exact ⟨rfl, rfl, rfl, accounted⟩

theorem Conserves.receive (conserves : subscription.Conserves wallet sent got)
    (live : subscription.cancelled = false) :
    subscription.receive.1.Conserves wallet sent
      (got ++ subscription.receive.2.toList) := by
  simp only [Subscription.receive, live, Bool.false_eq_true, if_false, conserves.forwarding,
    if_true]
  have accounted := conserves.accounted
  cases queued : subscription.queued with
  | nil => simpa [Look.toList] using conserves
  | cons event rest =>
      rw [queued] at accounted
      exact ⟨conserves.own, rfl, conserves.sourceOpen, by simpa [Look.toList] using accounted⟩

theorem Relays.act (relays : subscription.Relays wallet sent got)
    (action : SubscriptionAction)
    (keepsUp : action.published?.isSome → subscription.unread.length < capacity) :
    (subscription.act action).Relays wallet (sent ++ action.published?.toList)
      (got ++ subscription.taken action) := by
  cases cancelled : subscription.cancelled with
  | true =>
      refine ⟨?_, fun live => ?_⟩
      · rw [taken_cancelled action cancelled, List.append_nil, List.filter_append]
        exact relays.inTurn.trans (List.prefix_append _ _)
      · rw [act_cancelled action cancelled] at live
        cases live
  | false =>
      have conserves := relays.conserves cancelled
      cases action with
      | publish event =>
          have later := conserves.publish event (keepsUp rfl)
          simp only [taken, List.append_nil]
          exact ⟨later.inTurn, fun _ => later⟩
      | forward =>
          have later := conserves.forward cancelled
          simp only [taken, SubscriptionAction.published?, Option.toList_none, List.append_nil]
          exact ⟨later.inTurn, fun _ => later⟩
      | receive =>
          have later := conserves.receive cancelled
          simp only [SubscriptionAction.published?, Option.toList_none, List.append_nil]
          exact ⟨later.inTurn, fun _ => later⟩
      | cancel =>
          simp only [taken, SubscriptionAction.published?, Option.toList_none, List.append_nil]
          exact ⟨relays.inTurn, nofun⟩

theorem Relays.after (relays : subscription.Relays wallet sent got)
    (actions : List SubscriptionAction) (keepsUp : subscription.keepsUp actions = true) :
    (subscription.after actions).Relays wallet
      (sent ++ actions.filterMap SubscriptionAction.published?)
      (got ++ subscription.received actions) := by
  induction actions generalizing subscription sent got with
  | nil =>
      rw [Subscription.received, List.filterMap_nil, List.append_nil, List.append_nil]
      exact relays
  | cons action later ih =>
      simp only [Subscription.keepsUp, Bool.and_eq_true, Bool.or_eq_true, decide_eq_true_eq]
        at keepsUp
      have roomy (some : action.published?.isSome) : subscription.unread.length < capacity :=
        keepsUp.1.resolve_left
          (by simp [Option.isNone_iff_eq_none, Option.isSome_iff_ne_none.mp some])
      have acted := ih (relays.act action roomy) keepsUp.2
      have split : (action :: later).filterMap SubscriptionAction.published? =
          action.published?.toList ++ later.filterMap SubscriptionAction.published? := by
        cases shown : action.published? <;> simp [shown]
      rw [split, Subscription.received, ← List.append_assoc, ← List.append_assoc]
      exact acted

theorem Relays.fresh (wallet : Wallet) : Relays wallet [] [] { wallet := wallet } :=
  ⟨List.prefix_rfl, fun _ => ⟨rfl, rfl, rfl, rfl⟩⟩

theorem Relays.received_eq (relays : subscription.Relays wallet sent got)
    (forwarded : subscription.canForward = false) (emptied : subscription.canReceive = false) :
    got = sent.filter wallet.wants := by
  simp only [canReceive, Bool.or_eq_false_iff, Bool.not_eq_false', List.isEmpty_iff] at emptied
  obtain ⟨⟨live, queued⟩, _⟩ := emptied
  have conserves := relays.conserves live
  have unread : subscription.unread = [] := by
    simpa [canForward, conserves.forwarding, live, conserves.sourceOpen] using forwarded
  rw [← conserves.accounted, queued, unread, List.filter_nil, List.append_nil, List.append_nil]

end Subscription

/-! All that may happen to a host. -/

inductive HostAction where
  | setAvailable (channel : Channel) (available : Bool)
  | pair (channel : Channel) (device : Device)
  | unpair (channel : Channel) (device : Device)
  | plugIn (channel : Channel) (device : Device)
  | unplug (channel : Channel) (device : Device)
  | emit (channel : Channel) (event : PlugEvent)
  | queueResponse (response : ChooserResponse)
  | failEnumeration (message : Option String)
  | setLatency (milliseconds : Nat)
  | enumerate (channel : Channel)
  | choose (channel : Channel)
  | deliver (selection : Option (Channel × Device))
  | subscribe (wallet : Wallet)
  | cancel (id : SubscriptionId)
  | forward (id : SubscriptionId)
  | receive (id : SubscriptionId)
  deriving DecidableEq, Repr

namespace HostAction

def published? (channel : Channel) : HostAction → Option PlugEvent
  | .plugIn on device => if on = channel then some (.attached device) else none
  | .unplug on device => if on = channel then some (.detached device) else none
  | .emit on event => if on = channel then some event else none
  | _ => none

def on? (channel : Channel) (id : SubscriptionId) (action : HostAction) :
    Option SubscriptionAction :=
  match action with
  | .forward other => if other = id then some .forward else none
  | .receive other => if other = id then some .receive else none
  | .cancel other => if other = id then some .cancel else none
  | action => (action.published? channel).map .publish

theorem on?_published? (channel : Channel) (id : SubscriptionId) (action : HostAction) :
    (action.on? channel id).bind SubscriptionAction.published? = action.published? channel := by
  cases action with
  | plugIn _ _ | unplug _ _ | emit _ _ | forward _ | receive _ | cancel _ =>
      simp only [on?, published?]
      split <;> rfl
  | setAvailable _ _ | pair _ _ | unpair _ _ | queueResponse _ | failEnumeration _
  | setLatency _ | enumerate _ | choose _ | deliver _ | subscribe _ => rfl

end HostAction

namespace MemoryHost

def act (host : MemoryHost) : HostAction → MemoryHost
  | .setAvailable channel available => host.setAvailable channel available
  | .pair channel device => host.pair channel device
  | .unpair channel device => host.unpair channel device
  | .plugIn channel device => host.plugIn channel device
  | .unplug channel device => host.unplug channel device
  | .emit channel event => (host.emit channel event).1
  | .queueResponse response => host.queueResponse response
  | .failEnumeration message => host.failEnumeration message
  | .setLatency milliseconds => host.setLatency milliseconds
  | .enumerate channel => (host.enumerate channel).1
  | .choose channel => (host.choose channel).1
  | .deliver selection => host.deliver selection
  | .subscribe wallet => (host.subscribe wallet).1
  | .cancel id => host.cancel id
  | .forward id => host.forward id
  | .receive id => (host.receive id).1

def taken (host : MemoryHost) (id : SubscriptionId) : HostAction → List PlugEvent
  | .receive other => if other = id then (host.receive id).2.toList else []
  | _ => []

def after (host : MemoryHost) (actions : List HostAction) : MemoryHost := actions.foldl act host

def publishedOn (channel : Channel) (actions : List HostAction) : List PlugEvent :=
  actions.filterMap (HostAction.published? channel)

def receivedBy (host : MemoryHost) (id : SubscriptionId) : List HostAction → List PlugEvent
  | [] => []
  | action :: later => host.taken id action ++ (host.act action).receivedBy id later

/-- Whenever an event is published on the channel, the subscription's forwarder has less to read
than is kept for it. -/
def keepsUp (host : MemoryHost) (channel : Channel) (id : SubscriptionId) :
    List HostAction → Bool
  | [] => true
  | action :: later =>
      ((action.published? channel).isNone ||
          (host.subscription? id).all fun subscription =>
            subscription.unread.length < Subscription.capacity) &&
        (host.act action).keepsUp channel id later

variable {host : MemoryHost} {channel : Channel} {id : SubscriptionId}
  {subscription : Subscription}

theorem emit_subscription? (on : Channel) (event : PlugEvent)
    (known : host.subscription? id = some subscription)
    (own : subscription.wallet.channel? = some channel) :
    (host.emit on event).1.subscription? id =
      some (if on = channel then subscription.publish event else subscription) := by
  have mapped : (host.emit on event).1.subscription? id =
      (host.subscription? id).map fun subscription =>
        if listensOn on subscription then subscription.publish event else subscription :=
    List.getElem?_map
  rw [mapped, known, Option.map_some]
  congr 1
  cases idle : subscription.forwarding with
  | false => simp [listensOn, idle, subscription.publish_idle event idle]
  | true => simp [listensOn, idle, own, eq_comm (a := channel)]

theorem update_subscription? (other : SubscriptionId) (change : Subscription → Subscription)
    (known : host.subscription? id = some subscription) :
    (host.update other change).subscription? id =
      some (if other = id then change subscription else subscription) := by
  have modified : (host.update other change).subscription? id =
      (fun subscription => if other = id then change subscription else subscription) <$>
        host.subscription? id := List.getElem?_modify ..
  rw [modified, known]
  rfl

theorem pair_subscriptions (on : Channel) (device : Device) :
    (host.pair on device).subscriptions = host.subscriptions := by
  simp only [pair]
  split <;> rfl

theorem enumerate_subscriptions (on : Channel) :
    (host.enumerate on).1.subscriptions = host.subscriptions := by
  simp only [enumerate]
  split <;> rfl

theorem choose_subscriptions (on : Channel) :
    (host.choose on).1.subscriptions = host.subscriptions := by
  simp only [choose]
  split <;> rfl

theorem deliver_subscriptions (selection : Option (Channel × Device)) :
    (host.deliver selection).subscriptions = host.subscriptions := by
  rcases selection with _ | ⟨on, device⟩
  · rfl
  · exact host.pair_subscriptions on device

theorem inquire_subscriptions (wallet : Wallet) :
    (host.inquire wallet).1.subscriptions = host.subscriptions := by
  simp only [inquire]
  split
  · rfl
  · exact enumerate_subscriptions _

theorem request_subscriptions (wallet : Wallet) :
    (host.request wallet).1.subscriptions = host.subscriptions := by
  simp only [request]
  split
  · rfl
  · exact choose_subscriptions _

theorem subscription?_congr {other : MemoryHost}
    (same : other.subscriptions = host.subscriptions)
    (known : host.subscription? id = some subscription) :
    other.subscription? id = some subscription := by
  rw [subscription?, same]
  exact known

theorem receive_eq (known : host.subscription? id = some subscription) :
    host.receive id =
      (host.update id fun _ => subscription.receive.1, subscription.receive.2) := by
  rw [receive, known]

theorem act_subscription? (known : host.subscription? id = some subscription)
    (own : subscription.wallet.channel? = some channel) (action : HostAction) :
    (host.act action).subscription? id =
      some (((action.on? channel id).map subscription.act).getD subscription) := by
  cases action with
  | plugIn on device =>
      have paired := subscription?_congr (host.pair_subscriptions on device) known
      rw [act, plugIn, emit_subscription? on _ paired own]
      simp only [HostAction.on?, HostAction.published?]
      split <;> rfl
  | unplug on device =>
      rw [act, unplug, emit_subscription? on _ (by exact known) own]
      simp only [HostAction.on?, HostAction.published?]
      split <;> rfl
  | emit on event =>
      rw [act, emit_subscription? on event known own]
      simp only [HostAction.on?, HostAction.published?]
      split <;> rfl
  | forward other =>
      rw [act, forward, update_subscription? other _ known]
      simp only [HostAction.on?]
      split <;> rfl
  | cancel other =>
      rw [act, cancel, update_subscription? other _ known]
      simp only [HostAction.on?]
      split <;> rfl
  | receive other =>
      simp only [HostAction.on?]
      split
      next same =>
        subst same
        rw [act, receive_eq known, update_subscription? other _ known, if_pos rfl]
        rfl
      next apart =>
        simp only [act, receive]
        cases host.subscription? other with
        | none => exact known
        | some _ =>
            rw [update_subscription? other _ known, if_neg apart]
            rfl
  | subscribe wallet =>
      have bound : id < host.subscriptions.length := (List.getElem?_eq_some_iff.mp known).1
      exact (List.getElem?_append_left bound).trans known
  | pair on device => exact subscription?_congr (host.pair_subscriptions on device) known
  | deliver selection => exact subscription?_congr (deliver_subscriptions selection) known
  | enumerate on => exact subscription?_congr (enumerate_subscriptions on) known
  | choose on => exact subscription?_congr (choose_subscriptions on) known
  | setAvailable _ _ | unpair _ _ | queueResponse _ | failEnumeration _ | setLatency _ =>
      exact known

theorem taken_eq (channel : Channel) (known : host.subscription? id = some subscription)
    (action : HostAction) :
    host.taken id action = ((action.on? channel id).map subscription.taken).getD [] := by
  cases action with
  | receive other =>
      simp only [taken, HostAction.on?]
      split
      · rw [receive_eq known]
        rfl
      · rfl
  | plugIn on _ | unplug on _ | emit on _ =>
      simp only [taken, HostAction.on?, HostAction.published?]
      split <;> rfl
  | forward other | cancel other =>
      simp only [taken, HostAction.on?]
      split <;> rfl
  | setAvailable _ _ | pair _ _ | unpair _ _ | queueResponse _ | failEnumeration _
  | setLatency _ | enumerate _ | choose _ | deliver _ | subscribe _ => rfl

theorem after_subscription? (known : host.subscription? id = some subscription)
    (own : subscription.wallet.channel? = some channel) (actions : List HostAction) :
    (host.after actions).subscription? id =
        some (subscription.after (actions.filterMap (HostAction.on? channel id))) ∧
      host.receivedBy id actions =
        subscription.received (actions.filterMap (HostAction.on? channel id)) ∧
      host.keepsUp channel id actions =
        subscription.keepsUp (actions.filterMap (HostAction.on? channel id)) := by
  induction actions generalizing host subscription with
  | nil => exact ⟨known, rfl, rfl⟩
  | cons action later ih =>
      have acted := act_subscription? known own action
      have taken := taken_eq channel known action
      have published := action.on?_published? channel id
      have kept : (((action.on? channel id).map subscription.act).getD subscription).wallet =
          subscription.wallet := by
        cases action.on? channel id <;> simp
      obtain ⟨state, received, keepsUp⟩ := ih acted (by rw [kept]; exact own)
      cases does : action.on? channel id with
      | none =>
          rw [does] at taken published state received keepsUp
          rw [List.filterMap_cons_none does]
          refine ⟨state, ?_, ?_⟩
          · rw [receivedBy, received, taken]
            rfl
          · rw [MemoryHost.keepsUp, keepsUp, ← published]
            rfl
      | some own =>
          rw [does] at taken published state received keepsUp
          rw [List.filterMap_cons_some does]
          refine ⟨state, ?_, ?_⟩
          · rw [receivedBy, received, taken]
            rfl
          · rw [MemoryHost.keepsUp, keepsUp, ← published, known]
            rfl

theorem publishedOn_eq (id : SubscriptionId) (actions : List HostAction) :
    publishedOn channel actions =
      (actions.filterMap (HostAction.on? channel id)).filterMap SubscriptionAction.published? := by
  rw [List.filterMap_filterMap, publishedOn]
  exact congrArg (actions.filterMap ·)
    (funext fun action => (action.on?_published? channel id).symm)

theorem subscribe_known {wallet : Wallet} (reaches : wallet.Reaches host.isAvailable channel) :
    (host.subscribe wallet).1.subscription? (host.subscribe wallet).2 =
      some { wallet := wallet } := by
  have reachable : wallet.isReachable host.isAvailable = true := by
    rw [Wallet.isReachable, Wallet.reach_eq_ok_iff.mpr reaches]
    rfl
  simp [subscribe, subscription?, reachable]

/-- While the forwarder keeps up, a subscription receives the events of its wallet's devices that
are published on the channel after it began, in their order and each of them once, and has received
them all when neither the forwarder nor the receiver has anything left to do. Once it is cancelled
it receives nothing more. -/
theorem events_received_in_turn {wallet : Wallet}
    (reaches : wallet.Reaches host.isAvailable channel) (actions : List HostAction)
    (keepsUp : (host.subscribe wallet).1.keepsUp channel (host.subscribe wallet).2 actions = true) :
    (host.subscribe wallet).1.receivedBy (host.subscribe wallet).2 actions <+:
        (publishedOn channel actions).filter (fun event => wallet.Owns event.device) ∧
      (∃ subscription,
        ((host.subscribe wallet).1.after actions).subscription? (host.subscribe wallet).2 =
          some subscription ∧
        (subscription.canForward = false → subscription.canReceive = false →
          (host.subscribe wallet).1.receivedBy (host.subscribe wallet).2 actions =
            (publishedOn channel actions).filter (fun event => wallet.Owns event.device))) ∧
      ∀ earlier later, actions = earlier ++ .cancel (host.subscribe wallet).2 :: later →
        (host.subscribe wallet).1.receivedBy (host.subscribe wallet).2 actions =
          (host.subscribe wallet).1.receivedBy (host.subscribe wallet).2 earlier := by
  have known := subscribe_known reaches
  obtain ⟨state, received, kept⟩ := after_subscription? known reaches.known actions
  rw [kept] at keepsUp
  have relays := (Subscription.Relays.fresh wallet).after _ keepsUp
  have wants : (fun event : PlugEvent => decide (wallet.Owns event.device)) = wallet.wants := by
    funext event
    simp only [Wallet.wants, ← wallet.accepts_iff, Bool.decide_eq_true]
  rw [List.nil_append, List.nil_append, ← publishedOn_eq, ← received] at relays
  rw [wants]
  refine ⟨relays.inTurn, ⟨_, state, relays.received_eq⟩, ?_⟩
  rintro earlier later rfl
  have cancels : HostAction.on? channel (host.subscribe wallet).2
      (.cancel (host.subscribe wallet).2) = some .cancel := if_pos rfl
  rw [received, (after_subscription? known reaches.known earlier).2.1, List.filterMap_append,
    List.filterMap_cons_some cancels, Subscription.received_append, Subscription.received]
  have silent (earlier later : List SubscriptionAction) :
      (((Subscription.after { wallet := wallet } earlier).act .cancel).received later) = [] :=
    Subscription.received_cancelled later rfl
  rw [silent]
  simp [Subscription.taken]

def ownDevice : Device := { vendorId := 0x2c97, productId := 1 }

def arrivals : List HostAction :=
  [.plugIn .webHid ownDevice, .emit .webHid (.attached { vendorId := 0x534c, productId := 1 }),
    .forward 0, .forward 0, .receive 0]

def departures : List HostAction := [.unplug .webHid ownDevice, .forward 0, .receive 0]

theorem events_received_in_turn_arrivals :
    (({} : MemoryHost).subscribe .ledger).1.receivedBy 0 arrivals =
        (publishedOn .webHid arrivals).filter (fun event => Wallet.Owns .ledger event.device) ∧
      (({} : MemoryHost).subscribe .ledger).1.receivedBy 0 (arrivals ++ .cancel 0 :: departures) =
        (({} : MemoryHost).subscribe .ledger).1.receivedBy 0 arrivals := by
  have reaches : Wallet.ledger.Reaches ({} : MemoryHost).isAvailable .webHid := ⟨rfl, rfl⟩
  obtain ⟨_, ⟨subscription, known, all⟩, _⟩ := events_received_in_turn reaches arrivals rfl
  obtain ⟨_, _, silent⟩ :=
    events_received_in_turn reaches (arrivals ++ .cancel 0 :: departures) rfl
  cases known
  exact ⟨all rfl rfl, silent arrivals departures rfl⟩

end MemoryHost

end SignerLink
