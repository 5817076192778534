import SignerLink.Proofs.Provider.Listeners
import SignerLink.Proofs.Provider.Permission
/-!
Who listens to plug events. A provider counts as listening while it has a listener on record, and
the record is for the wallet of the selected account. Yet the listener leaves by itself when the
source of its events has closed, and it stays on record then: nobody receives events any more, and
another account of the same wallet finds the record and subscribes to nothing.
-/

namespace SignerLink

namespace Provider

variable {Bench : Type} {provider before middle after : Provider Bench}

/-! The listener on record. -/

/-- What has become of the listener on record: it receives from the subscription, or it was there
and has left since the source has closed. -/
inductive Hears (took : StrandId → SubscriptionId → Prop) (provider : Provider Bench)
    (strand : StrandId) (id : SubscriptionId) (subscription : Subscription) : Prop where
  | receiving : (strand, id) ∈ provider.listeners → subscription.IsFed →
      (subscription.forwarding = true → id ∈ provider.forwarded) →
      Hears took provider strand id subscription
  | left : took strand id → (∀ entry ∈ provider.listeners, entry.1 ≠ strand) →
      subscription.sourceOpen = false → Hears took provider strand id subscription

/-- Listeners do not get into each other's way, and the one on record is for the wallet of the
selected account. Here `took` tells who has been there to receive from which subscription. -/
structure Attended (took : StrandId → SubscriptionId → Prop) (provider : Provider Bench) :
    Prop where
  known : ∀ entry ∈ provider.listeners, (provider.host.subscription? entry.2).isSome
  apart : (provider.listeners.map Prod.snd).Nodup
  recorded : provider.isCancelled = false → ∀ listener, provider.tracking.listener = some listener →
    provider.wallet? = some listener.wallet ∧ listener.strand < provider.nextStrand ∧
      ∃ id subscription, provider.host.subscription? id = some subscription ∧
        subscription.wallet = listener.wallet ∧
        provider.Hears took listener.strand id subscription

section Attended

variable {took : StrandId → SubscriptionId → Prop}

theorem Hears.mono {more : StrandId → SubscriptionId → Prop}
    (grown : ∀ strand id, took strand id → more strand id) {strand : StrandId}
    {id : SubscriptionId} {subscription : Subscription}
    (hears : provider.Hears took strand id subscription) :
    provider.Hears more strand id subscription := by
  cases hears with
  | receiving listed fed served => exact .receiving listed fed served
  | left before gone closed => exact .left (grown strand id before) gone closed

theorem Hears.of_strands {strand : StrandId} {id : SubscriptionId} {subscription : Subscription}
    (hears : before.Hears took strand id subscription) (strands : after.strands = before.strands) :
    after.Hears took strand id subscription := by
  have listeners : after.listeners = before.listeners :=
    congrArg (List.filterMap Strand.listens?) strands
  have forwarded : after.forwarded = before.forwarded :=
    congrArg (List.filterMap Strand.forwards?) strands
  cases hears with
  | receiving listed fed served => exact .receiving (listeners ▸ listed) fed (forwarded ▸ served)
  | left before gone closed => exact .left before (listeners ▸ gone) closed

namespace Attended

theorem mono {more : StrandId → SubscriptionId → Prop}
    (grown : ∀ strand id, took strand id → more strand id) (attended : provider.Attended took) :
    provider.Attended more where
  known := attended.known
  apart := attended.apart
  recorded live listener record := by
    obtain ⟨wallet, below, id, subscription, known, own, hears⟩ :=
      attended.recorded live listener record
    exact ⟨wallet, below, id, subscription, known, own, hears.mono grown⟩

theorem of_unrecorded (known : ∀ entry ∈ provider.listeners,
      (provider.host.subscription? entry.2).isSome)
    (apart : (provider.listeners.map Prod.snd).Nodup) (none : provider.tracking.listener = none) :
    provider.Attended took where
  known := known
  apart := apart
  recorded _ listener record := by
    rw [none] at record
    cases record

theorem retained (attended : before.Attended took) (retains : before.Retains after) :
    after.Attended took := by
  have known : ∀ entry ∈ after.listeners, (after.host.subscription? entry.2).isSome := by
    intro entry listed
    rw [retains.listeners] at listed
    obtain ⟨subscription, found⟩ := Option.isSome_iff_exists.mp (attended.known entry listed)
    obtain ⟨later, kept, _⟩ := retains.host entry.2 subscription found
    rw [kept]
    rfl
  have apart : (after.listeners.map Prod.snd).Nodup := by
    rw [retains.listeners]
    exact attended.apart
  rcases retains.tracking with none | ⟨same, account⟩
  · exact .of_unrecorded known apart none
  · refine ⟨known, apart, ?_⟩
    intro live listener record
    rw [same] at record
    obtain ⟨wallet, below, id, subscription, found, own, hears⟩ :=
      attended.recorded (retains.goesOn live) listener record
    obtain ⟨later, kept, becomes⟩ := retains.host id subscription found
    refine ⟨?_, Nat.lt_of_lt_of_le below retains.next, id, later, kept,
      becomes.wallet.trans own, ?_⟩
    · rw [wallet?, account]
      exact wallet
    · cases hears with
      | receiving listed fed served =>
          have listens : id ∈ before.listeners.map Prod.snd :=
            List.mem_map_of_mem (f := Prod.snd) listed
          refine .receiving (retains.listeners ▸ listed) (becomes.isFed listens fed) ?_
          rw [becomes.forwarding listens]
          exact fun forwarding => retains.forwarded (served forwarding)
      | left before gone closed =>
          exact .left before (retains.listeners ▸ gone) (becomes.closed closed)

theorem enlisted {wallet : Wallet} {id : SubscriptionId} (attended : provider.Attended took)
    (found : provider.host.subscription? id = some { wallet := wallet })
    (own : ∀ entry ∈ provider.listeners, entry.2 ≠ id) (served : id ∈ provider.forwarded)
    (selected : provider.wallet? = some wallet) :
    ((provider.spawn (.listener id)).1.setTracking
      { provider.tracking with listener := some ⟨wallet, provider.nextStrand⟩ }).Attended took := by
  have listeners : (provider.spawn (.listener id)).1.listeners =
      provider.listeners ++ [(provider.nextStrand, id)] := by
    simp only [Provider.listeners, spawn, List.filterMap_append]
    rfl
  refine ⟨?_, ?_, ?_⟩
  · intro entry listed
    rcases List.mem_append.mp (listeners ▸ listed) with stood | new
    · exact attended.known entry stood
    · rw [List.mem_singleton.mp new]
      exact Option.isSome_iff_exists.mpr ⟨_, found⟩
  · have apart : ((provider.spawn (.listener id)).1.listeners.map Prod.snd).Nodup := by
      rw [listeners, List.map_append]
      refine List.nodup_append.mpr ⟨attended.apart, List.nodup_singleton _, ?_⟩
      intro former stood latter new
      obtain ⟨entry, listed, rfl⟩ := List.mem_map.mp stood
      rw [List.mem_singleton.mp new]
      exact own entry listed
    exact apart
  · rintro _ _ ⟨⟩
    refine ⟨selected, Nat.lt_succ_self _, id, _, found, rfl, ?_⟩
    have listed : (provider.nextStrand, id) ∈ (provider.spawn (.listener id)).1.listeners :=
      listeners ▸ List.mem_append_right _ (List.mem_singleton_self _)
    refine .receiving listed ⟨rfl, fun _ => rfl⟩ fun _ => ?_
    simp only [Provider.forwarded, setTracking, spawn, List.filterMap_append]
    exact List.mem_append_left _ served

theorem listen [AdapterBench Bench] {wallet : Wallet}
    (attended : provider.stopListening.Attended took)
    (unrecorded :
      (provider.tracking.listener.any fun listener => listener.wallet == wallet) = false)
    (selected : provider.wallet? = some wallet) : (provider.listen wallet).Attended took := by
  have retains : provider.stopListening.Retains (provider.stopListening.subscribe wallet).1 :=
    (subscribe_edits wallet).retains (by decide)
  have subscribed := attended.retained retains
  simp only [Provider.listen, unrecorded, Bool.false_eq_true, if_false]
  split
  next active =>
    obtain ⟨fresh, found, served⟩ := subscribe_active active
    refine subscribed.enlisted found ?_ served ?_
    · intro entry listed same
      rw [retains.listeners] at listed
      obtain ⟨subscription, stood⟩ := Option.isSome_iff_exists.mp (attended.known entry listed)
      have below : entry.2 < provider.host.subscriptions.length :=
        (List.getElem?_eq_some_iff.mp stood).1
      exact Nat.ne_of_lt below (same.trans fresh)
    · rw [wallet?, subscribe_tracking]
      exact selected
  next => exact subscribed

/-! Turns of forwarders and listeners. -/

section Turns

variable {strand : Strand} {id : SubscriptionId}

theorem forwardedOnce (attended : provider.Attended took) (id : SubscriptionId) :
    (provider.setHost (provider.host.forward id)).Attended took := by
  have forwards {other : SubscriptionId} {subscription : Subscription}
      (found : provider.host.subscription? other = some subscription) :
      ∃ later, (provider.host.forward id).subscription? other = some later ∧
        (later = subscription ∨ later = subscription.forward) := by
    refine ⟨_, MemoryHost.update_subscription? id Subscription.forward found, ?_⟩
    split
    · exact .inr rfl
    · exact .inl rfl
  refine ⟨?_, attended.apart, ?_⟩
  · intro entry listed
    obtain ⟨subscription, found⟩ := Option.isSome_iff_exists.mp (attended.known entry listed)
    obtain ⟨later, kept, _⟩ := forwards found
    exact Option.isSome_iff_exists.mpr ⟨later, kept⟩
  · intro live listener record
    obtain ⟨wallet, below, other, subscription, found, own, hears⟩ :=
      attended.recorded live listener record
    obtain ⟨later, kept, rfl | rfl⟩ := forwards found
    · exact ⟨wallet, below, other, _, kept, own, hears.of_strands rfl⟩
    · refine ⟨wallet, below, other, _, kept, Subscription.forward_wallet.trans own, ?_⟩
      cases hears with
      | receiving listed fed served =>
          exact .receiving listed fed.forward fun forwarding =>
            served (Subscription.forwarding_of_forward forwarding)
      | left before gone closed =>
          exact .left before gone (Subscription.forward_sourceOpen.trans closed)

theorem forwarderLeft (attended : provider.Attended took) (distinct : provider.Distinct)
    (member : strand ∈ provider.strands) (duty : strand.duty = .forwarder id)
    (stopped : ((provider.host.subscription? id).any Subscription.forwarding) = false) :
    (provider.remove strand.id).Attended took := by
  have deaf : strand.listens? = none := by simp [Strand.listens?, duty]
  have listeners := listeners_remove distinct member deaf
  refine ⟨listeners ▸ attended.known, listeners ▸ attended.apart, ?_⟩
  intro live listener record
  obtain ⟨wallet, below, other, subscription, found, own, hears⟩ :=
    attended.recorded live listener record
  refine ⟨wallet, below, other, subscription, found, own, ?_⟩
  cases hears with
  | receiving listed fed served =>
      refine .receiving (listeners ▸ listed) fed fun forwarding => ?_
      refine forwarded_remove distinct member (fun forwards => ?_) (served forwarding)
      cases duty.symm.trans (Strand.forwards?_eq_some.mp forwards).1
      rw [found, Option.any_some, forwarding] at stopped
      cases stopped
  | left before gone closed => exact .left before (listeners ▸ gone) closed

theorem listenerLeft (attended : provider.Attended took) (distinct : provider.Distinct)
    (member : strand ∈ provider.strands) (duty : strand.duty = .listener id)
    (stood : took strand.id id)
    (ended : provider.isListener strand.id = false ∨ (provider.host.receive id).2 = .ended) :
    ((provider.setHost (provider.host.cancel id)).remove strand.id).Attended took := by
  have listed : (strand.id, id) ∈ provider.listeners :=
    mem_listeners.mpr ⟨strand, member, rfl, duty⟩
  have cancels {other : SubscriptionId} {subscription : Subscription}
      (found : provider.host.subscription? other = some subscription) :
      (provider.host.cancel id).subscription? other =
        some (if id = other then subscription.cancel else subscription) :=
    MemoryHost.update_subscription? id Subscription.cancel found
  have remains {entry : StrandId × SubscriptionId}
      (within : entry ∈ ((provider.setHost (provider.host.cancel id)).remove strand.id).listeners) :
      entry ∈ provider.listeners ∧ entry.1 ≠ strand.id := mem_listeners_remove.mp within
  refine ⟨?_, attended.apart.sublist ((listeners_remove_sublist _).map Prod.snd), ?_⟩
  · intro entry within
    obtain ⟨subscription, found⟩ :=
      Option.isSome_iff_exists.mp (attended.known entry (remains within).1)
    exact Option.isSome_iff_exists.mpr ⟨_, cancels found⟩
  · intro live listener record
    obtain ⟨wallet, below, other, subscription, found, own, hears⟩ :=
      attended.recorded live listener record
    refine ⟨wallet, below, other, _, cancels found, ?_, ?_⟩
    · split <;> exact own
    · cases hears with
      | left before gone closed =>
          refine .left before (fun entry within => gone entry (remains within).1) ?_
          split <;> exact closed
      | receiving onRecord fed served =>
          by_cases leaves : listener.strand = strand.id
          · -- The listener on record leaves, so it is at the end of its subscription.
            have same : other = id := by
              obtain ⟨holder, present, named, holds⟩ := mem_listeners.mp onRecord
              cases distinct.eq_of_id present member (named.trans leaves)
              exact Duty.listener.inj (holds.symm.trans duty)
            subst same
            have onDuty : provider.isListener strand.id = true := by
              simp [isListener, show provider.isCancelled = false from live,
                show provider.tracking.listener = some listener from record, leaves]
            have exhausted : subscription.receive.2 = .ended := by
              have exhausted := ended.resolve_left (by simp [onDuty])
              rwa [MemoryHost.receive_eq found] at exhausted
            refine .left (leaves ▸ stood) (fun entry within => leaves ▸ (remains within).2) ?_
            rw [if_pos rfl]
            exact fed.source_closed exhausted
          · have apart : id ≠ other := by
              rintro rfl
              have twice := List.inj_on_of_nodup_map attended.apart onRecord listed rfl
              exact leaves (congrArg Prod.fst twice)
            rw [if_neg apart]
            have hosted : (provider.setHost (provider.host.cancel id)).Distinct :=
              ⟨distinct.nodup, distinct.below⟩
            have busy : strand.forwards? ≠ some other := by simp [Strand.forwards?, duty]
            exact .receiving (mem_listeners_remove.mpr ⟨onRecord, leaves⟩) fed fun forwarding =>
              forwarded_remove hosted member busy (served forwarding)

end Turns

variable [AdapterBench Bench]

theorem turnTo {account : Account} {wallet : Wallet} (attended : provider.Attended took)
    (hardware : account.wallet? = some wallet) :
    ((provider.track account).turnTo wallet).Attended took := by
  obtain ⟨connection, goesOn, turned⟩ := turnTo_listens (provider.track account) wallet
  rw [turned]
  cases recorded : provider.tracking.listener.any fun listener => listener.wallet == wallet with
  | true =>
      -- The record is for this wallet already, so it stays, whatever has become of the listener.
      have kept : ((provider.track account).setConnection connection).listen wallet =
          (provider.track account).setConnection connection := listen_recorded recorded
      rw [kept]
      refine ⟨attended.known, attended.apart, ?_⟩
      intro live listener record
      have before : provider.isCancelled = false := goesOn ▸ live
      obtain ⟨_, below, heard⟩ := attended.recorded before listener record
      rw [show provider.tracking.listener = some listener from record] at recorded
      have same : listener.wallet = wallet := by simpa using recorded
      refine ⟨same ▸ hardware, below, ?_⟩
      obtain ⟨id, subscription, found, own, hears⟩ := heard
      exact ⟨id, subscription, found, own, hears.of_strands rfl⟩
  | false =>
      have stopped : provider.Retains
          ((provider.track account).setConnection connection).stopListening :=
        ⟨Nat.le_refl _, rfl, List.Subset.refl _, .of_same rfl, .inl rfl, fun live => goesOn ▸ live⟩
      exact (attended.retained stopped).listen recorded hardware

theorem worked_on (attended : before.Attended took) (done : before.WorkDone after) :
    after.Attended took := by
  cases done with
  | edits edits => exact attended.retained (edits.retains (by decide))
  | turnTo account wallet hardware edits =>
      exact (attended.turnTo hardware).retained (edits.retains (by decide))
  | release account same =>
      have released : before.Retains (before.track account).release :=
        ⟨Nat.le_refl _, rfl, List.Subset.refl _, .of_same rfl, .inl rfl,
          fun live => (Connection.reset_cancelled before.connection).symm.trans live⟩
      exact same ▸ attended.retained released

theorem worked {strand next : Strand} {work : Work} (attended : provider.Attended took)
    (distinct : provider.Distinct) (member : strand ∈ provider.strands)
    (takes : provider.work? strand = some (work, next)) :
    (provider.advance strand).Attended took := by
  rw [advance_of_work takes]
  have performed := (attended.retained (facing_retained takes)).worked_on (perform_done work)
  have present : strand ∈ (provider.perform work).1.strands := by
    have grows : provider.Grows (provider.perform work).1 := perform_grows work
    obtain ⟨spawned, same, _⟩ := grows.strands
    rw [same]
    exact List.mem_append_left spawned member
  exact performed.retained (.proceeded (perform_distinct distinct work) present (work?_id takes)
    (work?_listens? takes) (work?_forwards? takes) _)

theorem advance {strand : Strand} (attended : provider.Attended took)
    (distinct : provider.Distinct) (member : strand ∈ provider.strands)
    (stood : ∀ entry ∈ provider.listeners, took entry.1 entry.2) :
    (provider.advance strand).Attended took := by
  cases takes : provider.work? strand with
  | some taken => exact attended.worked distinct member takes
  | none =>
      have idle := call_of_none takes
      cases duty : strand.duty with
      | caller _ | pump | retry _ _ _ | watcher _ _ =>
          exact attended.retained (advance_retains distinct member takes
            (by simp [Strand.listens?, duty]) (by simp [Strand.forwards?, duty]))
      | forwarder id =>
          have passed := attended.forwardedOnce id
          simp only [Provider.advance, idle, duty]
          split
          next => exact passed
          next stopped =>
            exact passed.forwarderLeft ⟨distinct.nodup, distinct.below⟩ member duty
              (by simpa using stopped)
      | listener id =>
          have listed : (strand.id, id) ∈ provider.listeners :=
            mem_listeners.mpr ⟨strand, member, rfl, duty⟩
          have left := attended.listenerLeft distinct member duty (stood _ listed)
          simp only [work?, idle, duty] at takes
          simp only [Provider.advance, idle, duty, listenerStep]
          split
          next dismissed => exact left (.inl (by simpa using dismissed))
          next onDuty =>
            rw [if_pos (by simpa using onDuty)] at takes
            split
            next exhausted => exact left (.inr (by rw [exhausted]))
            next => exact attended
            next received => simp [received] at takes

end Attended

/-- Forwarder and listener of the subscription have nothing left to do. -/
def IsCaughtUp (provider : Provider Bench) (id : SubscriptionId) : Prop :=
  ∀ strand ∈ provider.strands, strand.duty = .forwarder id ∨ strand.duty = .listener id →
    strand.call = none ∧ provider.canMove strand = false

theorem IsCaughtUp.deserted {strand : StrandId} {id : SubscriptionId} {subscription : Subscription}
    (caughtUp : provider.IsCaughtUp id) (found : provider.host.subscription? id = some subscription)
    (closed : subscription.sourceOpen = false)
    (served : subscription.forwarding = true → id ∈ provider.forwarded) :
    (strand, id) ∉ provider.listeners := by
  intro listed
  obtain ⟨listener, member, _, duty⟩ := mem_listeners.mp listed
  obtain ⟨idle, rests⟩ := caughtUp listener member (.inr duty)
  simp only [canMove, idle, duty, found, Option.any_some, Subscription.canReceive,
    Bool.or_eq_false_iff, Bool.not_eq_false'] at rests
  have forwarding : subscription.forwarding = true := rests.2.2
  obtain ⟨forwarder, present, forwards, free⟩ := mem_forwarded.mp (served forwarding)
  have stuck := (caughtUp forwarder present (.inl forwards)).2
  simp [canMove, free, forwards, found, Subscription.canForward, forwarding, closed] at stuck

variable [AdapterBench Bench]

/-! Runs. -/

variable {evolves : Bench → Bench → Prop}

/-- Anything happens while listeners are spared: sources close whenever they like, but nobody else
ends or serves the subscription of a listener. -/
inductive Undisturbed (evolves : Bench → Bench → Prop) :
    Provider Bench → Provider Bench → Prop where
  | turn {provider : Provider Bench} {strand : Strand} :
      strand ∈ provider.strands → provider.canMove strand = true →
      Undisturbed evolves provider (provider.advance strand).letGo
  | beside {before after : Provider Bench} : Transition evolves before after →
      before.host.Spares (before.listeners.map Prod.snd) after.host →
      Undisturbed evolves before after

theorem Undisturbed.transition (undisturbed : Undisturbed evolves before after) :
    Transition evolves before after := by
  cases undisturbed with
  | turn member ready => exact .advance before _ member ready
  | beside transition _ => exact transition

theorem Undisturbed.attended (undisturbed : Undisturbed evolves before after)
    (distinct : before.Distinct) (attended : before.Attended took)
    (stood : ∀ entry ∈ before.listeners, took entry.1 entry.2) : after.Attended took := by
  have turned {strand : Strand} (member : strand ∈ before.strands) :
      (before.advance strand).letGo.Attended took :=
    (attended.advance distinct member stood).retained (letGo_edits.retains (by decide))
  cases undisturbed with
  | turn member _ => exact turned member
  | beside transition spares =>
      rcases transition.retains spares with ⟨strand, member, rfl⟩ | retains
      · exact turned member
      · exact attended.retained retains

/-- Earlier in the run the strand was there to receive from the subscription. -/
def Listened (evolves : Bench → Bench → Prop) (first provider : Provider Bench)
    (strand : StrandId) (id : SubscriptionId) : Prop :=
  ∃ earlier, Relation.ReflTransGen (Undisturbed evolves) first earlier ∧
    Relation.ReflTransGen (Undisturbed evolves) earlier provider ∧
      (strand, id) ∈ earlier.listeners

theorem IsNew.distinct_undisturbed {first : Provider Bench} (new : first.IsNew)
    (run : Relation.ReflTransGen (Undisturbed evolves) first provider) : provider.Distinct :=
  (new.simulates (Relation.ReflTransGen.mono (fun _ _ => Undisturbed.transition) _ _ run)).1

theorem IsNew.attended {first : Provider Bench} (new : first.IsNew)
    (unrecorded : first.tracking.listener = none)
    (run : Relation.ReflTransGen (Undisturbed evolves) first provider) :
    provider.Attended (Listened evolves first provider) := by
  induction run with
  | refl =>
      have nobody : first.listeners = [] := by rw [listeners, new.strands]; rfl
      exact .of_unrecorded (by simp [nobody]) (by simp [nobody]) unrecorded
  | tail run undisturbed ih =>
      have attended := undisturbed.attended (new.distinct_undisturbed run) ih
        fun _ listed => ⟨_, run, .refl, listed⟩
      refine attended.mono ?_
      rintro strand id ⟨earlier, before, since, listed⟩
      exact ⟨earlier, before, since.tail undisturbed, listed⟩

/-- A provider that listens has a listener on record for the wallet of the selected account. Until
the source of its events has closed, it is the one who receives them, and they are forwarded to
it; once the source has closed and the rest has been dealt with, nobody receives. The record stays
either way, and another account of the same wallet subscribes to nothing. -/
theorem listening_receives_unless_closed {first : Provider Bench} (new : first.IsNew)
    (unrecorded : first.tracking.listener = none)
    (run : Relation.ReflTransGen (Undisturbed evolves) first provider)
    (listening : provider.isListening = true) :
    ∃ wallet strand id subscription,
      provider.tracking.listener = some ⟨wallet, strand⟩ ∧ provider.wallet? = some wallet ∧
      Listened evolves first provider strand id ∧
      provider.host.subscription? id = some subscription ∧ subscription.wallet = wallet ∧
      (subscription.sourceOpen = true → provider.receivers = [(strand, id)] ∧
        subscription.cancelled = false ∧ subscription.forwarding = true ∧
        id ∈ provider.forwarded) ∧
      (subscription.sourceOpen = false →
        (provider.receivers = [(strand, id)] ∨ provider.receivers = []) ∧
        (provider.IsCaughtUp id → provider.receivers = [])) ∧
      ∀ account : Account, account.wallet? = some wallet →
        (provider.selectAccount account).1.host.subscriptions = provider.host.subscriptions := by
  have distinct := new.distinct_undisturbed run
  have attended := new.attended unrecorded run
  simp only [isListening, Bool.and_eq_true, Bool.not_eq_true', Option.isSome_iff_exists]
    at listening
  obtain ⟨live, ⟨wallet, strand⟩, record⟩ := listening
  obtain ⟨selected, _, id, subscription, found, own, hears⟩ :=
    attended.recorded live _ record
  have skipped (account : Account) (hardware : account.wallet? = some wallet) :
      (provider.selectAccount account).1.host.subscriptions = provider.host.subscriptions :=
    selectAccount_subscriptions record hardware
  cases hears with
  | receiving listed fed served =>
      have stands : Listened evolves first provider strand id := ⟨provider, run, .refl, listed⟩
      have receives := distinct.receivers_eq attended.apart live record listed
      refine ⟨wallet, strand, id, subscription, record, selected, stands, found, own, ?_, ?_,
        skipped⟩
      · intro opened
        have forwarding := fed.forwarded opened
        exact ⟨receives, fed.live, forwarding, served forwarding⟩
      · intro closed
        exact ⟨.inl receives, fun caughtUp =>
          absurd listed (caughtUp.deserted found closed served)⟩
  | left stood gone closed =>
      have nobody := receivers_eq_nil live record gone
      refine ⟨wallet, strand, id, subscription, record, selected, stood, found, own, ?_,
        fun _ => ⟨.inr nobody, fun _ => nobody⟩, skipped⟩
      intro opened
      rw [closed] at opened
      cases opened

end Attended

theorem begun_undisturbed [AdapterBench Bench] {evolves : Bench → Bench → Prop}
    (provider : Provider Bench) (request : Request) :
    Relation.ReflTransGen (Undisturbed evolves) provider (provider.begun request) := by
  have member : provider.asker request ∈ (provider.asking request).strands :=
    List.mem_append_right _ (List.mem_singleton_self _)
  exact .tail (.single (.beside (.request provider request) (.of_same rfl))) (.turn member rfl)

def firstLedger : Account := ⟨some "Ledger Hardware", some "0x1"⟩

def secondLedger : Account := ⟨some "Ledger Hardware", some "0x2"⟩

def watched : Provider SimulatedBench := (ofBench {}).begun (.selectAccount firstLedger)

def deserted : Provider SimulatedBench :=
  ((((watched.setHost (watched.host.closeSource 0)).advance
    { id := 1, duty := .forwarder 0 }).letGo).advance { id := 2, duty := .listener 0 }).letGo

theorem deserted_run :
    Relation.ReflTransGen (Undisturbed fun _ _ => True) (ofBench {}) deserted := by
  have began : Relation.ReflTransGen (Undisturbed fun _ _ => True) (ofBench {}) watched :=
    begun_undisturbed _ _
  have closed := began.tail
    (.beside (.onHost watched (watched.host.closeSource 0)) (MemoryHost.closeSource_spares 0))
  have forwarder : ({ id := 1, duty := .forwarder 0 } : Strand) ∈
      (watched.setHost (watched.host.closeSource 0)).strands := .head _
  have stopped := closed.tail (.turn forwarder rfl)
  exact stopped.tail (.turn (.head _) rfl)

theorem listening_receives_unless_closed_deserted :
    deserted.isListening = true ∧ deserted.receivers = [] ∧
      (deserted.selectAccount secondLedger).1.host.subscriptions = deserted.host.subscriptions := by
  obtain ⟨wallet, strand, id, subscription, record, _, _, found, _, _, closed, skips⟩ :=
    listening_receives_unless_closed (ofBench_isFresh {}).toIsNew rfl deserted_run rfl
  cases record
  have only : id = 0 := Nat.lt_one_iff.mp (List.getElem?_eq_some_iff.mp found).1
  subst only
  cases found
  refine ⟨rfl, (closed rfl).2 ?_, skips secondLedger rfl⟩
  intro strand member
  cases member

/-- The record tells of a listener who is gone, and with another account of the wallet it goes on
to do so, though a new subscription could be had. -/
theorem deserted_counts_as_listening :
    ∃ first : Provider SimulatedBench, first.IsFresh ∧
      Relation.ReflTransGen (Undisturbed fun _ _ => True) first deserted ∧
      deserted.isListening = true ∧ deserted.wallet? = some .ledger ∧ deserted.receivers = [] ∧
      secondLedger.wallet? = some .ledger ∧ secondLedger ≠ deserted.tracking.account ∧
      Wallet.ledger.isReachable deserted.host.isAvailable = true ∧
      (deserted.begun (.selectAccount secondLedger)).host.subscriptions =
        deserted.host.subscriptions ∧
      (deserted.begun (.selectAccount secondLedger)).isListening = true ∧
      (deserted.begun (.selectAccount secondLedger)).receivers = [] :=
  ⟨ofBench {}, ofBench_isFresh {}, deserted_run, rfl, rfl, rfl, rfl, by decide, rfl, rfl, rfl, rfl⟩

end Provider

end SignerLink
