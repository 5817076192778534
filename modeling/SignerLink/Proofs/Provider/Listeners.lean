import SignerLink.Proofs.Provider.Edits
import SignerLink.Proofs.Provider.Simulation
import SignerLink.Proofs.Transport.Sparing
/-!
The strands that listen to plug events and those that forward them, and what leaves them alone.
Turns with work and almost all else that happens to a provider neither add nor remove a listener;
selecting an account turns to a wallet, and that subscribes only if no listener is on record for it.
-/

namespace SignerLink

namespace Strand

def listens? (strand : Strand) : Option (StrandId × SubscriptionId) :=
  match strand.duty with
  | .listener id => some (strand.id, id)
  | _ => none

def forwards? (strand : Strand) : Option SubscriptionId :=
  match strand.duty, strand.call with
  | .forwarder id, none => some id
  | _, _ => none

variable {strand : Strand}

theorem listens?_eq_some {entry : StrandId × SubscriptionId} :
    strand.listens? = some entry ↔ strand.id = entry.1 ∧ strand.duty = .listener entry.2 := by
  obtain ⟨id, subscription⟩ := entry
  simp only [listens?]
  split
  next other duty => simp [duty]
  next other =>
    simp only [reduceCtorEq, false_iff, not_and]
    exact fun _ duty => other _ duty

theorem forwards?_eq_some {id : SubscriptionId} :
    strand.forwards? = some id ↔ strand.duty = .forwarder id ∧ strand.call = none := by
  simp only [forwards?]
  split
  next other duty idle => simp [duty, idle]
  next other =>
    simp only [reduceCtorEq, false_iff, not_and]
    exact fun duty idle => other _ duty idle

end Strand

namespace Provider

variable {Bench : Type} {provider before middle after : Provider Bench}

def listeners (provider : Provider Bench) : List (StrandId × SubscriptionId) :=
  provider.strands.filterMap Strand.listens?

def forwarded (provider : Provider Bench) : List SubscriptionId :=
  provider.strands.filterMap Strand.forwards?

/-- The listeners that have not been replaced or told to stop. -/
def receivers (provider : Provider Bench) : List (StrandId × SubscriptionId) :=
  provider.listeners.filter fun entry => provider.isListener entry.1

theorem mem_listeners {entry : StrandId × SubscriptionId} :
    entry ∈ provider.listeners ↔
      ∃ strand ∈ provider.strands, strand.id = entry.1 ∧ strand.duty = .listener entry.2 := by
  simp only [listeners, List.mem_filterMap, Strand.listens?_eq_some]

theorem mem_forwarded {id : SubscriptionId} :
    id ∈ provider.forwarded ↔
      ∃ strand ∈ provider.strands, strand.duty = .forwarder id ∧ strand.call = none := by
  simp only [forwarded, List.mem_filterMap, Strand.forwards?_eq_some]

theorem Distinct.eq_of_id (distinct : provider.Distinct) {strand other : Strand}
    (member : strand ∈ provider.strands) (present : other ∈ provider.strands)
    (same : strand.id = other.id) : strand = other :=
  List.inj_on_of_nodup_map distinct.nodup member present same

/-! Who receives. -/

theorem Distinct.listener_unique (distinct : provider.Distinct)
    {entry other : StrandId × SubscriptionId} (listed : entry ∈ provider.listeners)
    (present : other ∈ provider.listeners) (same : entry.1 = other.1) : entry = other := by
  obtain ⟨strand, member, named, duty⟩ := mem_listeners.mp listed
  obtain ⟨twin, present, called, holds⟩ := mem_listeners.mp present
  cases distinct.eq_of_id member present (named.trans (same.trans called.symm))
  exact Prod.ext same (Duty.listener.inj (duty.symm.trans holds))

theorem receivers_of_listening {listener : Listener} (live : provider.isCancelled = false)
    (record : provider.tracking.listener = some listener) :
    provider.receivers = provider.listeners.filter fun entry => listener.strand == entry.1 := by
  simp [receivers, isListener, live, record]

theorem Distinct.receivers_eq (distinct : provider.Distinct) {wallet : Wallet} {strand : StrandId}
    {id : SubscriptionId} (apart : (provider.listeners.map Prod.snd).Nodup)
    (live : provider.isCancelled = false)
    (record : provider.tracking.listener = some ⟨wallet, strand⟩)
    (listed : (strand, id) ∈ provider.listeners) : provider.receivers = [(strand, id)] := by
  have only : ∀ entry ∈ provider.listeners, (strand == entry.1) = (entry == (strand, id)) := by
    intro entry present
    rw [Bool.eq_iff_iff, beq_iff_eq, beq_iff_eq]
    exact ⟨fun same => distinct.listener_unique present listed same.symm, fun same => same ▸ rfl⟩
  rw [receivers_of_listening live record, List.filter_congr only, List.filter_beq,
    List.count_eq_one_of_mem apart.of_map listed]
  rfl

theorem receivers_eq_nil {listener : Listener} (live : provider.isCancelled = false)
    (record : provider.tracking.listener = some listener)
    (gone : ∀ entry ∈ provider.listeners, entry.1 ≠ listener.strand) : provider.receivers = [] := by
  rw [receivers_of_listening live record, List.filter_eq_nil_iff]
  intro entry listed same
  exact gone entry listed (beq_iff_eq.mp same).symm

/-! Strands that leave. -/

section Leaving

variable {strand : Strand} {id : SubscriptionId}

theorem mem_listeners_remove {entry : StrandId × SubscriptionId} {leaver : StrandId} :
    entry ∈ (provider.remove leaver).listeners ↔ entry ∈ provider.listeners ∧ entry.1 ≠ leaver := by
  simp only [mem_listeners, remove, List.mem_filter, bne_iff_ne]
  constructor
  · rintro ⟨strand, ⟨member, other⟩, named, duty⟩
    exact ⟨⟨strand, member, named, duty⟩, named ▸ other⟩
  · rintro ⟨⟨strand, member, named, duty⟩, other⟩
    exact ⟨strand, ⟨member, named ▸ other⟩, named, duty⟩

theorem listeners_remove_sublist (leaver : StrandId) :
    (provider.remove leaver).listeners.Sublist provider.listeners :=
  List.filter_sublist.filterMap Strand.listens?

theorem listeners_remove (distinct : provider.Distinct) (member : strand ∈ provider.strands)
    (deaf : strand.listens? = none) :
    (provider.remove strand.id).listeners = provider.listeners := by
  obtain ⟨front, back, place⟩ := List.append_of_mem member
  simp only [listeners, remove_strands distinct place, place, List.filterMap_append,
    List.filterMap_cons_none deaf]

theorem forwarded_remove (distinct : provider.Distinct) (member : strand ∈ provider.strands)
    (other : strand.forwards? ≠ some id) (served : id ∈ provider.forwarded) :
    id ∈ (provider.remove strand.id).forwarded := by
  obtain ⟨forwarder, present, forwards⟩ := List.mem_filterMap.mp served
  refine List.mem_filterMap.mpr ⟨forwarder, List.mem_filter.mpr ⟨present, ?_⟩, forwards⟩
  rw [bne_iff_ne]
  intro same
  cases distinct.eq_of_id present member same
  exact other forwards

end Leaving

/-! What does not touch listeners. -/

/-- Nobody listens anew, and what is received is not interfered with. -/
structure Retains (before after : Provider Bench) : Prop where
  next : before.nextStrand ≤ after.nextStrand
  listeners : after.listeners = before.listeners
  forwarded : before.forwarded ⊆ after.forwarded
  host : before.host.Spares (before.listeners.map Prod.snd) after.host
  tracking : after.tracking.listener = none ∨
    after.tracking.listener = before.tracking.listener ∧
      after.tracking.account = before.tracking.account
  goesOn : after.isCancelled = false → before.isCancelled = false

namespace Retains

theorem trans (first : before.Retains middle) (rest : middle.Retains after) :
    before.Retains after where
  next := first.next.trans rest.next
  listeners := rest.listeners.trans first.listeners
  forwarded := List.Subset.trans first.forwarded rest.forwarded
  host := first.host.trans (first.listeners ▸ rest.host)
  tracking := by
    rcases rest.tracking with none | ⟨listener, account⟩
    · exact .inl none
    · rw [listener, account]
      exact first.tracking
  goesOn live := first.goesOn (rest.goesOn live)

theorem of_host {host : MemoryHost}
    (spares : provider.host.Spares (provider.listeners.map Prod.snd) host) :
    provider.Retains (provider.setHost host) :=
  ⟨Nat.le_refl _, rfl, List.Subset.refl _, spares, .inr ⟨rfl, rfl⟩, id⟩

theorem aside (strands : after.strands = before.strands)
    (next : after.nextStrand = before.nextStrand)
    (host : after.host.subscriptions = before.host.subscriptions)
    (tracking : after.tracking = before.tracking)
    (goesOn : after.isCancelled = false → before.isCancelled = false) : before.Retains after where
  next := next.ge
  listeners := congrArg (List.filterMap Strand.listens?) strands
  forwarded := by
    rw [Provider.forwarded, Provider.forwarded, strands]
    exact List.Subset.refl _
  host := .of_same host
  tracking := .inr (by rw [tracking]; exact ⟨rfl, rfl⟩)
  goesOn := goesOn

theorem refl (provider : Provider Bench) : provider.Retains provider := aside rfl rfl rfl rfl id

theorem through {connection : Connection Bench}
    (goesOn : connection.cancelled = false → provider.isCancelled = false) :
    provider.Retains (provider.setConnection connection) := aside rfl rfl rfl rfl goesOn

theorem tracked {tracking : Tracking}
    (kept : tracking.listener = none ∨ tracking.listener = provider.tracking.listener ∧
      tracking.account = provider.tracking.account) :
    provider.Retains (provider.setTracking tracking) :=
  ⟨Nat.le_refl _, rfl, List.Subset.refl _, .of_same rfl, kept, id⟩

theorem spawned {duty : Duty}
    (deaf : Strand.listens? { id := provider.nextStrand, duty := duty } = none) :
    provider.Retains (provider.spawn duty).1 where
  next := Nat.le_succ _
  listeners := by
    simp only [Provider.listeners, spawn, List.filterMap_append, List.filterMap_cons_none deaf,
      List.filterMap_nil, List.append_nil]
  forwarded := by
    simp only [Provider.forwarded, spawn, List.filterMap_append]
    exact List.subset_append_left _ _
  host := .of_same rfl
  tracking := .inr ⟨rfl, rfl⟩
  goesOn := id

theorem replaced {strand next : Strand} (distinct : provider.Distinct)
    (member : strand ∈ provider.strands) (named : next.id = strand.id)
    (listens : next.listens? = strand.listens?) (busy : strand.forwards? = none) :
    provider.Retains (provider.put next) where
  next := Nat.le_refl _
  listeners := by
    obtain ⟨front, back, place⟩ := List.append_of_mem member
    simp only [Provider.listeners, put_strands distinct place named, place, List.filterMap_append,
      List.filterMap_cons, listens]
  forwarded := by
    obtain ⟨front, back, place⟩ := List.append_of_mem member
    intro subscription served
    simp only [Provider.forwarded, place, List.filterMap_append, List.filterMap_cons_none busy,
      List.mem_append] at served
    simp only [Provider.forwarded, put_strands distinct place named, List.filterMap_append,
      List.mem_append]
    refine served.imp id fun within => ?_
    obtain ⟨other, present, forwards⟩ := List.mem_filterMap.mp within
    exact List.mem_filterMap.mpr ⟨other, List.mem_cons_of_mem _ present, forwards⟩
  host := .of_same rfl
  tracking := .inr ⟨rfl, rfl⟩
  goesOn := id

theorem removed {strand : Strand} (distinct : provider.Distinct)
    (member : strand ∈ provider.strands) (deaf : strand.listens? = none)
    (busy : strand.forwards? = none) : provider.Retains (provider.remove strand.id) where
  next := Nat.le_refl _
  listeners := listeners_remove distinct member deaf
  forwarded _ := forwarded_remove distinct member (by simp [busy])
  host := .of_same rfl
  tracking := .inr ⟨rfl, rfl⟩
  goesOn := id

theorem proceeded {strand next : Strand} (distinct : provider.Distinct)
    (member : strand ∈ provider.strands) (named : next.id = strand.id)
    (listens : next.listens? = strand.listens?) (busy : strand.forwards? = none) (step : Step) :
    provider.Retains (provider.proceed next step) := by
  have leaves (deaf : next.listens? = none) : provider.Retains (provider.remove next.id) :=
    named ▸ removed distinct member (listens ▸ deaf) busy
  cases step with
  | waiting call milliseconds => exact replaced distinct member named listens busy
  | finished reply =>
      simp only [proceed]
      split
      next duty =>
        exact (leaves (by simp [Strand.listens?, duty])).trans (.aside rfl rfl rfl rfl id)
      next duty => exact leaves (by simp [Strand.listens?, duty])
      next => exact replaced distinct member named listens busy

end Retains

theorem Edit.retains [AdapterBench Bench] {kind : EditKind} (apart : kind ≠ .listener)
    (edit : Edit kind before after) : before.Retains after := by
  cases edit with
  | ask _ host same => exact .of_host (.of_same same)
  | subscribe _ wallet => exact .of_host (.subscribed wallet)
  | forward _ _ | putOff _ _ _ _ => exact .spawned rfl
  | listen _ _ | record _ _ => exact absurd rfl apart
  | dismiss _ => exact .tracked (.inl rfl)
  | permit _ _ _ _ => exact .aside rfl rfl rfl rfl id
  | begin _ request =>
      exact .through fun live => (Connection.begin_cancelled request).symm.trans live
  | resume _ call => exact .through fun live => (Connection.resume_cancelled call).symm.trans live
  | react _ event goesOn =>
      exact .through fun live => (Connection.react_cancelled goesOn).symm.trans live
  | count _ _ _ => exact .tracked (.inr ⟨rfl, rfl⟩)
  | cancel _ => exact .aside rfl rfl rfl rfl (absurd · (ne_false_of_eq_true rfl))
  | tearDown _ _ => exact .through fun live => (Connection.teardown_cancelled _).symm.trans live

theorem Edits.retains [AdapterBench Bench] {kinds : List EditKind}
    (edits : before.Edits kinds after) (apart : .listener ∉ kinds) : before.Retains after :=
  edits.keeps Retains .refl .trans fun _ member => Edit.retains fun same => apart (same ▸ member)

/-! Turns with work. -/

section Work

variable {strand next : Strand} {work : Work}

theorem facing_retained
    (takes : provider.work? strand = some (work, next)) :
    provider.Retains (provider.facing work) := by
  have unchanged : provider.Retains (provider.setHost provider.host) := .of_host (.of_same rfl)
  simp only [work?] at takes
  split at takes
  next => cases takes; exact .refl provider
  next =>
    split at takes
    next => cases takes; exact unchanged
    next => cases takes
    next => cases takes
    next subscription _ =>
      split at takes
      next =>
        split at takes
        next host event received =>
          cases takes
          have hosted : host = (provider.host.receive subscription).1 := by rw [received]
          exact hosted ▸ .of_host (.received subscription)
        next => cases takes
      next => cases takes
    next =>
      split at takes
      next => cases takes
      next => cases takes; exact .refl provider
    next =>
      repeat' split at takes
      all_goals cases takes
      exact unchanged

theorem work?_listens? (takes : provider.work? strand = some (work, next)) :
    next.listens? = strand.listens? := by
  simp only [work?] at takes
  split at takes
  next => cases takes; rfl
  next =>
    split at takes
    next => cases takes; rfl
    next => cases takes
    next => cases takes
    next =>
      repeat' split at takes
      all_goals cases takes
      rfl
    next =>
      split at takes
      next => cases takes
      next => cases takes; rfl
    next store seen duty =>
      repeat' split at takes
      all_goals cases takes
      simp [Strand.listens?, duty]

theorem work?_forwards? (takes : provider.work? strand = some (work, next)) :
    strand.forwards? = none := by
  rw [Option.eq_none_iff_forall_ne_some]
  intro id forwards
  obtain ⟨duty, idle⟩ := Strand.forwards?_eq_some.mp forwards
  simp [work?, duty, idle] at takes

end Work

theorem subscribe_tracking (wallet : Wallet) :
    (provider.subscribe wallet).1.tracking = provider.tracking := by
  simp only [subscribe]
  split <;> rfl

theorem subscribe_active {wallet : Wallet}
    (active : (provider.subscribe wallet).1.host.isActive (provider.subscribe wallet).2 = true) :
    (provider.subscribe wallet).2 = provider.host.subscriptions.length ∧
      (provider.subscribe wallet).1.host.subscription? (provider.subscribe wallet).2 =
        some { wallet := wallet } ∧
      (provider.subscribe wallet).2 ∈ (provider.subscribe wallet).1.forwarded := by
  have id : (provider.subscribe wallet).2 = provider.host.subscriptions.length := by
    simp only [subscribe]
    split <;> rfl
  have host : (provider.subscribe wallet).1.host = (provider.host.subscribe wallet).1 := by
    simp only [subscribe]
    split <;> rfl
  have last : (provider.host.subscribe wallet).1.subscription? provider.host.subscriptions.length =
      some (if wallet.isReachable provider.host.isAvailable then { wallet := wallet }
        else Subscription.inactive wallet) := by
    simp [MemoryHost.subscribe, MemoryHost.subscription?]
  rw [host, id] at active
  rw [host, id]
  refine ⟨rfl, ?_, ?_⟩
  · rw [last]
    rw [MemoryHost.isActive, last] at active
    split
    · rfl
    next unreachable =>
      rw [if_neg unreachable] at active
      cases active
  · have asked : ((provider.setHost (provider.host.subscribe wallet).1).host.isActive
        (provider.host.subscribe wallet).2) = true := active
    simp only [subscribe, asked, if_true, Provider.forwarded, spawn, List.filterMap_append]
    exact List.mem_append_right _ (List.mem_singleton_self _)

theorem listen_recorded {wallet : Wallet}
    (recorded : (provider.tracking.listener.any fun listener => listener.wallet == wallet) = true) :
    provider.listen wallet = provider := if_pos recorded

theorem turnTo_listens [AdapterBench Bench] (provider : Provider Bench) (wallet : Wallet) :
    ∃ connection : Connection Bench, connection.cancelled = provider.isCancelled ∧
      provider.turnTo wallet = (provider.setConnection connection).listen wallet := by
  simp only [turnTo]
  split
  · exact ⟨_, Connection.reset_cancelled _, rfl⟩
  · exact ⟨provider.connection, rfl, rfl⟩

theorem Edits.subscriptions [AdapterBench Bench] {kinds : List EditKind}
    (edits : before.Edits kinds after) (apart : .subscription ∉ kinds) :
    after.host.subscriptions = before.host.subscriptions := by
  refine edits.keeps (fun before after => after.host.subscriptions = before.host.subscriptions)
    (fun _ => rfl) (fun first rest => rest.trans first) fun kind member _ _ edit => ?_
  cases edit with
  | subscribe _ _ => exact absurd member apart
  | ask _ _ same => exact same
  | _ => rfl

theorem selectAccount_subscriptions [AdapterBench Bench] {account : Account} {listener : Listener}
    (record : provider.tracking.listener = some listener)
    (same : account.wallet? = some listener.wallet) :
    (provider.selectAccount account).1.host.subscriptions = provider.host.subscriptions := by
  by_cases begins : provider.isCancelled = false ∧ provider.tracking.account ≠ account
  · obtain ⟨connection, _, turned⟩ := turnTo_listens (provider.track account) listener.wallet
    have recorded : (((provider.track account).setConnection connection).tracking.listener.any
        fun other => other.wallet == listener.wallet) = true := by
      simp [show ((provider.track account).setConnection connection).tracking.listener =
        some listener from record]
    have edits := selectAccount_edits begins.1 begins.2 same
    rw [turned, listen_recorded recorded] at edits
    exact edits.subscriptions (by decide)
  · rw [selectAccount_idle begins]

variable [AdapterBench Bench]

theorem advance_retains {strand : Strand} (distinct : provider.Distinct)
    (member : strand ∈ provider.strands) (takes : provider.work? strand = none)
    (deaf : strand.listens? = none) (busy : strand.forwards? = none) :
    provider.Retains (provider.advance strand) := by
  have idle := call_of_none takes
  have gone : provider.Retains (provider.remove strand.id) := .removed distinct member deaf busy
  cases duty : strand.duty with
  | caller request => simp [work?, idle, duty] at takes
  | forwarder id => simp [Strand.forwards?, idle, duty] at busy
  | listener id => simp [Strand.listens?, duty] at deaf
  | pump =>
      have kept : (provider.connection.react .pump).cancelled = provider.isCancelled :=
        Connection.react_cancelled rfl
      simp only [advance, idle, duty]
      split
      · exact gone.trans (.aside rfl rfl rfl rfl id)
      · exact .through fun live => kept.symm.trans live
  | retry epoch trigger due =>
      simp only [work?, idle, duty] at takes
      simp only [advance, idle, duty]
      split
      next => exact gone
      next live => simp [live] at takes
  | watcher store seen =>
      simp only [work?, idle, duty] at takes
      simp only [advance, idle, duty, watcherStep]
      split
      next => exact gone
      next accounts stored =>
        simp only [stored] at takes
        split
        next => exact gone
        next goes =>
          rw [if_neg goes] at takes
          split
          next =>
            split
            · exact gone
            · exact .refl provider
          next unseen =>
            rw [if_neg unseen] at takes
            cases takes

variable {evolves : Bench → Bench → Prop}

theorem Transition.retains (transition : Transition evolves before after)
    (spares : before.host.Spares (before.listeners.map Prod.snd) after.host) :
    (∃ strand ∈ before.strands, after = (before.advance strand).letGo) ∨ before.Retains after := by
  cases transition with
  | advance strand member _ => exact .inl ⟨strand, member, rfl⟩
  | onHost host => exact .inr (.of_host spares)
  | request request => exact .inr (.spawned rfl)
  | subscribe wallet => exact .inr ((subscribe_edits wallet).retains (by decide))
  | stopListening => exact .inr (.tracked (.inl rfl))
  | react event goesOn =>
      have kept : (before.connection.react event).cancelled = before.isCancelled :=
        Connection.react_cancelled goesOn
      exact .inr (.through fun live => kept.symm.trans live)
  | onBench change _ =>
      have kept : (before.connection.onBench change).cancelled = before.isCancelled :=
        Connection.deliver_cancelled _ _
      exact .inr (.through fun live => kept.symm.trans live)
  | cancel =>
      exact .inr (.aside rfl rfl rfl rfl (absurd · (ne_false_of_eq_true rfl)))
  | wait _ _ | resetPermission | closeStore _ => exact .inr (.aside rfl rfl rfl rfl id)
  | watchAccounts account =>
      have opened : before.Retains
          { before with stores := before.stores ++ [{ published := { value := account } }] } :=
        .aside rfl rfl rfl rfl id
      exact .inr (opened.trans (.spawned rfl))
  | startPump =>
      have started : before.Retains { before with pumpStarted := true } :=
        .aside rfl rfl rfl rfl id
      simp only [Provider.startPump]
      split
      · exact .inr (.refl before)
      · exact .inr (started.trans (.spawned rfl))
  | publishAccount store account =>
      simp only [Provider.publishAccount]
      split
      · exact .inr (.aside rfl rfl rfl rfl id)
      · exact .inr (.refl before)
  | drop =>
      have released : before.Retains { before with held := false } := .aside rfl rfl rfl rfl id
      exact .inr (released.trans (letGo_edits.retains (by decide)))

end Provider

end SignerLink
