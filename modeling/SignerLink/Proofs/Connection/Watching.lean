import SignerLink.Adapter.Simulated
import SignerLink.Proofs.Connection.Verification
/-!
What a ready session knows of its device. Adapters report that the device was locked or pulled out,
and which application it has opened, each fact for itself. They do not report that it was unlocked
or put back. A session that has heard of the expected application shows that it is ready, whatever
it has heard before.
-/

namespace SignerLink

inductive DeviceChange where
  | lock
  | unlock
  | openApp (app : String)
  | closeApp
  | setPresent (present : Bool)

namespace DeviceChange

def apply (bench : SimulatedBench) : DeviceChange → SimulatedBench × List Signal
  | .lock => bench.lock
  | .unlock => bench.unlock
  | .openApp app => bench.openApp app
  | .closeApp => bench.closeApp
  | .setPresent present => bench.setPresent present

def device (before : SimulatedDevice) : DeviceChange → SimulatedDevice
  | .lock => { before with locked := true }
  | .unlock => { before with locked := false }
  | .openApp app => { before with openApp := some app }
  | .closeApp => { before with openApp := none }
  | .setPresent present => { before with present := present }

/-- What adapters are told of the change, if anything. -/
def notice? : DeviceChange → Option Notice
  | .lock => some { kind := .deviceLocked, error := some (WalletError.ofCode .deviceLocked) }
  | .openApp app => some { kind := .appChanged, app := some app }
  | .closeApp => some { kind := .appNotOpen }
  | .setPresent false => some { kind := .disconnected }
  | .unlock | .setPresent true => none

theorem apply_eq (bench : SimulatedBench) (change : DeviceChange) :
    change.apply bench =
      (bench.setDevice (change.device bench.device),
        change.notice?.elim [] bench.broadcast) := by
  rcases change with _ | _ | _ | _ | (_ | _) <;> rfl

def after (first : SimulatedDevice) (made : List DeviceChange) : SimulatedDevice :=
  made.foldr (fun change device => change.device device) first

/-- The device as it was when its adapters were last told of a change. -/
def lastHeard (first : SimulatedDevice) : List DeviceChange → SimulatedDevice
  | [] => first
  | change :: made =>
      if change.notice?.isSome then change.device (after first made) else lastHeard first made

theorem device_listeners (before : SimulatedDevice) (change : DeviceChange) :
    (change.device before).listeners = before.listeners := by
  cases change <;> rfl

/-- A change that nobody is told of makes nothing worse. -/
structure Improves (earlier later : SimulatedDevice) : Prop where
  openApp : later.openApp = earlier.openApp
  present : earlier.present = true → later.present = true
  unlocked : earlier.locked = false → later.locked = false

theorem improves_of_unheard {change : DeviceChange} (unheard : change.notice? = none)
    (before : SimulatedDevice) : Improves before (change.device before) := by
  rcases change with _ | _ | _ | _ | (_ | _)
  case unlock => exact ⟨rfl, id, fun _ => rfl⟩
  case setPresent.true => exact ⟨rfl, fun _ => rfl, id⟩
  all_goals cases unheard

theorem lastHeard_improves (first : SimulatedDevice) (made : List DeviceChange) :
    Improves (lastHeard first made) (after first made) := by
  induction made with
  | nil => exact ⟨rfl, id, id⟩
  | cons change made ih =>
      cases told : change.notice? with
      | some notice =>
          simp only [lastHeard, told, Option.isSome_some, if_true]
          exact ⟨rfl, id, id⟩
      | none =>
          simp only [lastHeard, told, Option.isSome_none, Bool.false_eq_true, if_false]
          have step := improves_of_unheard told (after first made)
          exact ⟨step.openApp.trans ih.openApp, fun present => step.present (ih.present present),
            fun unlocked => step.unlocked (ih.unlocked unlocked)⟩

theorem ready_of_notice {change : DeviceChange} {notice : Notice} {wallet : Wallet}
    (told : change.notice? = some notice)
    (ready : (StateEvent.ofNotice notice (some wallet)).target = .ready)
    (before : SimulatedDevice) : (change.device before).openApp = wallet.expectedApp? := by
  rcases change with _ | _ | app | _ | (_ | _) <;> cases told
  case openApp =>
    simp only [StateEvent.ofNotice, Option.bind_some] at ready
    split at ready
    next expected =>
      simp only [Bool.and_eq_true, beq_iff_eq] at expected
      exact expected.2
    next => cases ready
  all_goals cases ready

end DeviceChange

/-! What is shown once all signals have been handled. -/

def ConnectionState.noticed (state : ConnectionState) (notice : Notice) (wallet : Wallet) :
    ConnectionState :=
  (transition state (.ofNotice notice (some wallet)) false).getD state

theorem ConnectionState.noticed_ready {state : ConnectionState} {notice : Notice}
    {wallet : Wallet} (ready : state.noticed notice wallet = .ready) :
    (StateEvent.ofNotice notice (some wallet)).target = .ready := by
  simp only [noticed, transition, Bool.false_and, Bool.false_eq_true, if_false] at ready
  split at ready
  next same =>
    simp only [Option.getD_none] at ready
    rw [ready] at same
    cases target : (StateEvent.ofNotice notice (some wallet)).target <;>
      rw [target] at same <;> first | rfl | cases same
  next => exact ready

def ConnectionState.pumped (token : Token) (wallet : Wallet) (state : ConnectionState)
    (signals : List Signal) : ConnectionState :=
  signals.foldl
    (fun state signal => if signal.token = token then state.noticed signal.notice wallet else state)
    state

theorem ConnectionState.pumped_ready {token : Token} {wallet : Wallet} {notice : Notice}
    {signals : List Signal} {state : ConnectionState}
    (same : ∀ signal ∈ signals, signal.notice = notice)
    (heard : (∃ signal ∈ signals, signal.token = token) ∨
      (state = .ready → (StateEvent.ofNotice notice (some wallet)).target = .ready))
    (ready : pumped token wallet state signals = .ready) :
    (StateEvent.ofNotice notice (some wallet)).target = .ready := by
  induction signals generalizing state with
  | nil =>
      rcases heard with ⟨_, member, _⟩ | asked
      · cases member
      · exact asked ready
  | cons signal rest ih =>
      have others : ∀ other ∈ rest, other.notice = notice :=
        fun other member => same other (List.mem_cons_of_mem signal member)
      have notified := same signal List.mem_cons_self
      rw [pumped, List.foldl_cons] at ready
      by_cases current : signal.token = token
      · rw [if_pos current, notified] at ready
        exact ih others (.inr ConnectionState.noticed_ready) ready
      · rw [if_neg current] at ready
        refine ih others ?_ ready
        rcases heard with ⟨other, member, matched⟩ | asked
        · rcases List.mem_cons.mp member with rfl | later
          · exact absurd matched current
          · exact .inl ⟨other, later, matched⟩
        · exact .inr asked

namespace SimulatedBench

theorem ask_connect {bench : SimulatedBench} {adapter : AdapterId} {entry : SimulatedAdapter}
    {answer : Bool} (deviceId : String) (found : bench.adapters[adapter]? = some entry)
    (working : entry.destroyed = false)
    (answered : (AdapterBench.ask bench adapter (.connect deviceId)).2.2 = .now (.ok answer)) :
    (AdapterBench.ask bench adapter (.connect deviceId)).1.adapters[adapter]? =
        some { entry with connected := true } ∧
      (adapter, entry.token) ∈
        (AdapterBench.ask bench adapter (.connect deviceId)).1.device.listeners := by
  have begun : AdapterBench.begin bench adapter (.connect deviceId) =
      (bench, [], .later bench.device.latency) := by
    simp only [AdapterBench.begin, begin, found, working, Bool.false_eq_true, if_false]
  cases latency : bench.device.latency with
  | succ delay =>
      simp only [AdapterBench.ask, begun, latency] at answered
      cases answered
  | zero =>
      simp only [AdapterBench.ask, begun, latency, AdapterBench.finish, finish, finishConnect,
        found] at answered ⊢
      cases failure : bench.device.nextFailure with
      | some error =>
          simp only [failure] at answered
          cases answered
      | none =>
          cases present : bench.device.present with
          | false =>
              simp only [failure, present] at answered
              cases answered
          | true =>
              have bound : adapter < bench.adapters.length := by
                rw [List.getElem?_eq_some_iff] at found
                exact found.1
              simp [working, setAdapter, bound]

end SimulatedBench

namespace Connection

/-- The session holds a connected adapter of the wallet, under whose token it listens. -/
structure Watches (connection : Connection SimulatedBench) (wallet : Wallet) (token : Token)
    (adapter : AdapterId) : Prop where
  live : connection.cancelled = false
  pumps : connection.inboxOpen = true
  still : connection.session.connecting = false
  owner : connection.session.wallet = some wallet
  current : connection.session.token = some token
  held : connection.session.adapter = some adapter
  connected : ∃ entry, connection.bench.adapters[adapter]? = some entry ∧
    entry.wallet = wallet ∧ entry.isConnected = true
  listens : (adapter, token) ∈ connection.bench.device.listeners

variable {connection : Connection SimulatedBench} {wallet : Wallet} {token : Token}
  {adapter : AdapterId}

theorem Watches.handleNotice_state (watches : connection.Watches wallet token adapter)
    (other : Token) (notice : Notice) :
    (connection.handleNotice other notice).state =
      if other = token then connection.state.noticed notice wallet else connection.state := by
  by_cases current : other = token
  · subst current
    have hears : (connection.cancelled || decide (connection.session.token ≠ some other)) =
        false := by
      simp [watches.live, watches.current]
    simp only [handleNotice, hears, Bool.false_eq_true, if_false, if_true]
    have shown (next : Connection SimulatedBench) (still : next.session.connecting = false)
        (owner : next.session.wallet = some wallet) (same : next.state = connection.state) :
        (next.publish (.ofNotice notice next.session.wallet)).state =
          connection.state.noticed notice wallet := by
      rw [owner, publish, still, same, ConnectionState.noticed]
      split
      next kept => rw [kept, Option.getD_none, same]
      next changed => rw [changed]; rfl
    split
    · exact shown _ watches.still watches.owner rfl
    · exact shown _ watches.still watches.owner rfl
  · have stale : connection.session.token ≠ some other := by
      rw [watches.current]
      exact fun same => current (Option.some.inj same).symm
    rw [if_neg current, handleNotice, if_pos (by simp [stale])]

theorem publish_inboxes {Bench : Type} (connection : Connection Bench) (event : StateEvent) :
    (connection.publish event).inbox = connection.inbox ∧
      (connection.publish event).inboxOpen = connection.inboxOpen := by
  simp only [publish]
  split <;> exact ⟨rfl, rfl⟩

theorem handleNotice_inboxes {Bench : Type} (connection : Connection Bench) (other : Token)
    (notice : Notice) :
    (connection.handleNotice other notice).inbox = connection.inbox ∧
      (connection.handleNotice other notice).inboxOpen = connection.inboxOpen := by
  simp only [handleNotice]
  split
  · exact ⟨rfl, rfl⟩
  · split <;> exact publish_inboxes _ _

theorem Watches.handleNotice (watches : connection.Watches wallet token adapter) (other : Token)
    (notice : Notice) :
    (connection.handleNotice other notice).Watches wallet token adapter := by
  obtain ⟨appName, session⟩ := connection.handleNotice_session other notice
  have bench := connection.handleNotice_bench other notice
  constructor
  case live => simpa using watches.live
  case pumps => exact (connection.handleNotice_inboxes other notice).2.trans watches.pumps
  case still => rw [session]; exact watches.still
  case owner => rw [session]; exact watches.owner
  case current => rw [session]; exact watches.current
  case held => rw [session]; exact watches.held
  case connected => rw [bench]; exact watches.connected
  case listens => rw [bench]; exact watches.listens

theorem Watches.pump (watches : connection.Watches wallet token adapter) :
    connection.pump.Watches wallet token adapter := by
  simp only [Connection.pump]
  split
  next => exact watches
  next signal rest _ =>
    have taken : ({ connection with inbox := rest } : Connection SimulatedBench).Watches wallet
        token adapter :=
      ⟨watches.live, watches.pumps, watches.still, watches.owner, watches.current, watches.held,
        watches.connected, watches.listens⟩
    exact taken.handleNotice signal.token signal.notice

theorem pump_bench {Bench : Type} (connection : Connection Bench) :
    connection.pump.bench = connection.bench := by
  simp only [Connection.pump]
  split <;> simp

theorem Watches.pump_pumped (watches : connection.Watches wallet token adapter) :
    ConnectionState.pumped token wallet connection.pump.state connection.pump.inbox =
      ConnectionState.pumped token wallet connection.state connection.inbox := by
  cases waiting : connection.inbox with
  | nil => simp only [Connection.pump, waiting]
  | cons signal rest =>
      have taken : ({ connection with inbox := rest } : Connection SimulatedBench).Watches wallet
          token adapter :=
        ⟨watches.live, watches.pumps, watches.still, watches.owner, watches.current, watches.held,
          watches.connected, watches.listens⟩
      simp only [Connection.pump, waiting]
      rw [taken.handleNotice_state, (handleNotice_inboxes _ _ _).1]
      rfl

def change (connection : Connection SimulatedBench) (change : DeviceChange) :
    Connection SimulatedBench :=
  connection.onBench change.apply

theorem change_eq (pumps : connection.inboxOpen = true) (change : DeviceChange) :
    connection.change change =
      { connection with
        bench := connection.bench.setDevice (change.device connection.bench.device)
        inbox := connection.inbox ++ change.notice?.elim [] connection.bench.broadcast } := by
  simp only [Connection.change, onBench, DeviceChange.apply_eq, deliver, pumps, if_true]

theorem Watches.change (watches : connection.Watches wallet token adapter)
    (change : DeviceChange) : (connection.change change).Watches wallet token adapter := by
  rw [change_eq watches.pumps]
  refine ⟨watches.live, watches.pumps, watches.still, watches.owner, watches.current, watches.held,
    watches.connected, ?_⟩
  simp only [SimulatedBench.setDevice, DeviceChange.device_listeners]
  exact watches.listens

structure ServesLedger (connection : Connection SimulatedBench) (token : Token)
    (adapter : AdapterId) : Prop where
  watches : connection.Watches .ledger token adapter
  ready : connection.bench.readinessOf adapter = .ok true

theorem readiness_ledger (device : SimulatedDevice) {entry : SimulatedAdapter}
    (ledger : entry.wallet = .ledger) :
    SimulatedBench.readiness device entry = .ok true ↔
      device.present = true ∧ device.locked = false ∧
        device.openApp = Wallet.ledger.expectedApp? := by
  simp only [SimulatedBench.readiness, ledger, Wallet.expectedApp?]
  cases device.present <;> cases device.locked <;> cases app : device.openApp <;> simp

theorem Watches.readinessOf (watches : connection.Watches .ledger token adapter) :
    connection.bench.readinessOf adapter = .ok true ↔
      connection.bench.device.present = true ∧ connection.bench.device.locked = false ∧
        connection.bench.device.openApp = Wallet.ledger.expectedApp? := by
  obtain ⟨entry, found, ledger, _⟩ := watches.connected
  rw [SimulatedBench.readinessOf, found]
  exact readiness_ledger connection.bench.device ledger

theorem Watches.ask_verify (watches : connection.Watches wallet token adapter)
    (deviceId : String) :
    AdapterBench.ask connection.bench adapter (.verify deviceId) =
      (connection.bench, [], .now (connection.bench.readinessOf adapter)) := by
  obtain ⟨entry, found, _, connected⟩ := watches.connected
  simp only [AdapterBench.ask, AdapterBench.begin, SimulatedBench.begin, found, connected, if_true]

/-! How a session comes to serve a Ledger. -/

theorem deliver_inboxOpen {Bench : Type} (connection : Connection Bench) (signals : List Signal) :
    (connection.deliver signals).inboxOpen = connection.inboxOpen := by
  simp only [deliver]
  split <;> rfl

theorem beginAttempt_inboxOpen {Bench : Type} [AdapterBench Bench] (connection : Connection Bench)
    (wallet : Wallet) (deviceId : Option String) :
    (connection.beginAttempt wallet deviceId).1.inboxOpen = connection.inboxOpen := by
  simp only [beginAttempt, (publish_inboxes _ _).2, releaseAdapter]
  split <;> rfl

theorem openAdapter_watches {deviceId : String} (live : connection.cancelled = false)
    (pumps : connection.inboxOpen = true) (current : connection.session.token = some token)
    (owner : connection.session.wallet = some .ledger)
    (ended : (connection.openAdapter token .ledger deviceId).2 = .finished .connected) :
    (connection.openAdapter token .ledger deviceId).1.Watches .ledger token
      connection.bench.adapters.length := by
  generalize place : connection.bench.adapters.length = adapter
  have created : AdapterBench.create connection.bench .ledger token =
      ((connection.bench.add .ledger token).1, .ok adapter) := by
    rw [← place]
    rfl
  have entry : (connection.bench.add .ledger token).1.adapters[adapter]? =
      some { wallet := .ledger, token := token } := by
    simp [SimulatedBench.add, ← place]
  simp only [openAdapter, setSession_bench, created] at ended ⊢
  generalize opened : setSession { setSession connection _ with
    bench := (connection.bench.add .ledger token).1 } _ = next at ended ⊢
  have found : next.bench.adapters[adapter]? = some { wallet := .ledger, token := token } := by
    rw [← opened]
    exact entry
  have answers (answer : Bool)
      (said : (AdapterBench.ask next.bench adapter (.connect deviceId)).2.2 = .now (.ok answer)) :=
    SimulatedBench.ask_connect deviceId found rfl said
  rcases asked : AdapterBench.ask next.bench adapter (.connect deviceId) with
    ⟨bench, signals, reply⟩
  simp only [ask, asked] at ended answers ⊢
  generalize told : deliver { next with bench := bench } signals = later at ended ⊢
  have leads : later.interruption? token = none := by
    refine interruption?_eq_none.mpr ⟨?_, ?_⟩
    · rw [← told, deliver_cancelled, ← opened]
      exact live
    · rw [← told, deliver_session, ← opened]
      exact current
  rcases reply with answer | milliseconds
  case later => cases ended
  rcases answer with error | answer
  · simp only [connectAnswered, leads] at ended
    cases ended
  · obtain ⟨connected, listens⟩ := answers answer rfl
    simp only [connectAnswered, leads]
    constructor
    case live => simpa using (interruption?_eq_none.mp leads).1
    case pumps =>
      rw [(publish_inboxes _ _).2, setSession, ← told, deliver_inboxOpen, ← opened]
      exact pumps
    case still => simp
    case owner =>
      rw [publish_session, setSession_session, ← told, deliver_session, ← opened]
      exact owner
    case current => simpa using (interruption?_eq_none.mp leads).2
    case held =>
      rw [publish_session, setSession_session, ← told, deliver_session, ← opened]
      rfl
    case connected =>
      rw [publish_bench, setSession_bench, ← told, deliver_bench]
      exact ⟨_, connected, rfl, rfl⟩
    case listens =>
      rw [publish_bench, setSession_bench, ← told, deliver_bench]
      exact listens

theorem searched_watches {found : DeviceSearch} (live : connection.cancelled = false)
    (pumps : connection.inboxOpen = true) (current : connection.session.token = some token)
    (owner : connection.session.wallet = some .ledger)
    (ended : (connection.searched token .ledger found).2 = .finished .connected) :
    ∃ adapter, (connection.searched token .ledger found).1.Watches .ledger token adapter := by
  have leads := interruption?_eq_none.mpr ⟨live, current⟩
  simp only [searched, leads] at ended ⊢
  rcases found with error | _ | id
  · cases ended
  · cases ended
  · exact ⟨_, openAdapter_watches live pumps current owner ended⟩

theorem connect_watches {target : Target} (pumps : connection.inboxOpen = true)
    (ended : (connection.connect .ledger target).2 = .finished .connected) :
    ∃ token adapter, (connection.connect .ledger target).1.Watches .ledger token adapter := by
  by_cases cancelled : connection.cancelled = true
  · simp only [connect, cancelled, if_true] at ended
    cases ended
  · have live : connection.cancelled = false := by simpa using cancelled
    have begun (deviceId : Option String) :
        (connection.beginAttempt .ledger deviceId).1.inboxOpen = true :=
      (connection.beginAttempt_inboxOpen .ledger deviceId).trans pumps
    simp only [connect, live, Bool.false_eq_true, if_false] at ended ⊢
    cases target with
    | device id =>
        exact ⟨_, _, openAdapter_watches (by simpa using live) (begun (some id)) (by simp; rfl)
          (by simp) ended⟩
    | search found milliseconds =>
        by_cases instant : milliseconds = 0
        · simp only [instant, if_true] at ended ⊢
          exact ⟨_, searched_watches (by simpa using live) (begun none) (by simp; rfl) (by simp)
            ended⟩
        · simp only [instant, if_false] at ended
          cases ended

theorem publish_watches (watches : connection.Watches wallet token adapter) (event : StateEvent) :
    (connection.publish event).Watches wallet token adapter := by
  constructor
  case pumps => exact (publish_inboxes connection event).2.trans watches.pumps
  case live => simpa using watches.live
  case still => simpa using watches.still
  case owner => simpa using watches.owner
  case current => simpa using watches.current
  case held => simpa using watches.held
  case connected => simpa using watches.connected
  case listens => simpa using watches.listens

theorem verify_servesLedger {deviceId : String}
    (watches : connection.Watches .ledger token adapter)
    (ready : (connection.verify token .ledger deviceId adapter).2 = .finished true) :
    (connection.verify token .ledger deviceId adapter).1.ServesLedger token adapter := by
  simp only [verify, ask, watches.ask_verify, deliver_nil] at ready ⊢
  obtain ⟨_, said, shown⟩ := verifyAnswered_ready (Progress.finished.inj ready)
  rw [shown]
  exact ⟨publish_watches watches .ready, by simpa using said⟩

theorem makeReady_servesLedger {wanted : Option String} {found : DeviceSearch}
    {milliseconds : Nat} (bare : connection.session.adapter = none)
    (pumps : connection.inboxOpen = true)
    (ready : (connection.makeReady .ledger wanted found milliseconds).2 = .finished true) :
    ∃ token adapter,
      (connection.makeReady .ledger wanted found milliseconds).1.ServesLedger token adapter := by
  cases plan : connection.readiness .ledger wanted with
  | refused =>
      simp only [makeReady, plan] at ready
      cases ready
  | held token deviceId adapter =>
      have holding := (held?_eq_some.mp (held?_of_readiness plan)).1
      cases bare.symm.trans holding
  | wanting target =>
      simp only [makeReady, plan, connectReady, verifyConnected] at ready ⊢
      rcases reached : connection.connect .ledger (.wanted target found milliseconds) with
        ⟨later, call | outcome⟩
      · rw [reached] at ready
        cases ready
      · rw [reached] at ready
        cases outcome with
        | superseded | aborted | failed _ => cases ready
        | connected =>
            obtain ⟨token, adapter, watches⟩ := connect_watches pumps (congrArg Prod.snd reached)
            rw [reached] at watches
            simp only [ConnectOutcome.isConnected, if_true] at ready ⊢
            cases held : later.held? with
            | none =>
                rw [held] at ready
                cases ready
            | some taken =>
                obtain ⟨current, deviceId, holding⟩ := taken
                obtain ⟨sameAdapter, sameToken, _⟩ := held?_eq_some.mp held
                cases watches.held.symm.trans sameAdapter
                cases watches.current.symm.trans sameToken
                rw [held] at ready
                exact ⟨token, adapter, verify_servesLedger watches ready⟩

/-! What happens to the device, and what the session makes of it. -/

/-- What happens to a device and a session on it, from the first connection on: the changes, of
which the latest comes first, and the pump's turns between them. -/
inductive Handled (first : Connection SimulatedBench) :
    List DeviceChange → Connection SimulatedBench → Prop where
  | start : Handled first [] first
  | change {made : List DeviceChange} {connection : Connection SimulatedBench}
      (change : DeviceChange) :
      Handled first made connection → Handled first (change :: made) (connection.change change)
  | pump {made : List DeviceChange} {connection : Connection SimulatedBench} :
      Handled first made connection → Handled first made connection.pump

/-- The session will be ready, once all is pumped, only over the expected application. -/
structure Tracks (first : SimulatedDevice) (made : List DeviceChange) (token : Token)
    (connection : Connection SimulatedBench) : Prop where
  device : connection.bench.device = DeviceChange.after first made
  expected : ConnectionState.pumped token .ledger connection.state connection.inbox = .ready →
    (DeviceChange.lastHeard first made).openApp = Wallet.ledger.expectedApp?

theorem Tracks.change {first : SimulatedDevice} {made : List DeviceChange}
    (tracks : Tracks first made token connection)
    (watches : connection.Watches .ledger token adapter) (change : DeviceChange) :
    Tracks first (change :: made) token (connection.change change) := by
  rw [change_eq watches.pumps]
  refine ⟨?_, ?_⟩
  · simp only [SimulatedBench.setDevice, tracks.device]
    rfl
  · intro ready
    have same : ({ connection with
        bench := connection.bench.setDevice (change.device connection.bench.device)
        inbox := connection.inbox ++ change.notice?.elim [] connection.bench.broadcast } :
          Connection SimulatedBench).state = connection.state := rfl
    rw [same, ConnectionState.pumped, List.foldl_append] at ready
    cases told : change.notice? with
    | none =>
        simp only [told, Option.elim_none, List.foldl_nil] at ready
        simp only [DeviceChange.lastHeard, told, Option.isSome_none, Bool.false_eq_true, if_false]
        exact tracks.expected ready
    | some notice =>
        simp only [told, Option.elim_some] at ready
        have notified : ∀ signal ∈ connection.bench.broadcast notice, signal.notice = notice := by
          intro signal member
          obtain ⟨_, _, rfl⟩ := List.mem_map.mp member
          rfl
        have heard : ∃ signal ∈ connection.bench.broadcast notice, signal.token = token :=
          ⟨_, List.mem_map.mpr ⟨_, watches.listens, rfl⟩, rfl⟩
        have expects := ConnectionState.pumped_ready notified (.inl heard) ready
        simp only [DeviceChange.lastHeard, told, Option.isSome_some, if_true]
        exact DeviceChange.ready_of_notice told expects _

theorem Handled.tracks {first : Connection SimulatedBench} {made : List DeviceChange}
    (verified : first.ServesLedger token adapter) (handled : Handled first made connection) :
    connection.Watches .ledger token adapter ∧
      Tracks first.bench.device made token connection := by
  induction handled with
  | start =>
      exact ⟨verified.watches, rfl, fun _ => (verified.watches.readinessOf.mp verified.ready).2.2⟩
  | change change _ ih =>
      obtain ⟨watches, tracks⟩ := ih
      exact ⟨watches.change change, tracks.change watches change⟩
  | pump _ ih =>
      obtain ⟨watches, tracks⟩ := ih
      refine ⟨watches.pump, (pump_bench _).symm ▸ tracks.device, ?_⟩
      rw [watches.pump_pumped]
      exact tracks.expected

/-- A session whose Ledger adapter was verified, and that is ready with nothing left to pump, has
the expected application open. Its device is there if it was when it was last heard of, and
unlocked if it was unlocked then; verifying it again succeeds just when both hold. -/
theorem ready_matches_device {first later : Connection SimulatedBench} {made : List DeviceChange}
    (verified : first.ServesLedger token adapter) (handled : Handled first made later)
    (pumped : later.inbox = []) (ready : later.state = .ready) :
    later.session.adapter = some adapter ∧
    later.bench.device.openApp = Wallet.ledger.expectedApp? ∧
    ((DeviceChange.lastHeard first.bench.device made).present = true →
      later.bench.device.present = true) ∧
    ((DeviceChange.lastHeard first.bench.device made).locked = false →
      later.bench.device.locked = false) ∧
    ∀ deviceId,
      (AdapterBench.ask later.bench adapter (.verify deviceId)).2.2 = .now (.ok true) ↔
        later.bench.device.present = true ∧ later.bench.device.locked = false := by
  obtain ⟨watches, tracks⟩ := handled.tracks verified
  have improves := DeviceChange.lastHeard_improves first.bench.device made
  rw [← tracks.device] at improves
  have settled : ConnectionState.pumped token .ledger later.state later.inbox = .ready := by
    rw [pumped]
    exact ready
  have app := improves.openApp.trans (tracks.expected settled)
  refine ⟨watches.held, app, improves.present, improves.unlocked, ?_⟩
  intro deviceId
  rw [watches.ask_verify, AdapterReply.now.injEq, watches.readinessOf]
  constructor
  · rintro ⟨present, unlocked, _⟩
    exact ⟨present, unlocked⟩
  · rintro ⟨present, unlocked⟩
    exact ⟨present, unlocked, app⟩

def verifiedOnce : Connection SimulatedBench :=
  let first : Connection SimulatedBench := { bench := .withApp (some "Ethereum") }
  (first.makeReady .ledger (some "left") (.ok none) 0).1

theorem verifiedOnce_servesLedger : ∃ token adapter, verifiedOnce.ServesLedger token adapter :=
  makeReady_servesLedger rfl rfl rfl

def lockedAndOpened : Connection SimulatedBench :=
  ((verifiedOnce.change .lock).change (.openApp "Ethereum")).pump.pump

theorem lockedAndOpened_handled :
    Handled verifiedOnce [.openApp "Ethereum", .lock] lockedAndOpened :=
  .pump (.pump (.change (.openApp "Ethereum") (.change .lock .start)))

theorem ready_matches_device_lockedAndOpened :
    ∃ adapter, lockedAndOpened.state = .ready ∧
      lockedAndOpened.session.adapter = some adapter ∧
      lockedAndOpened.bench.device.openApp = some "Ethereum" ∧
      lockedAndOpened.bench.device.present = true ∧
      (AdapterBench.ask lockedAndOpened.bench adapter (.verify "left")).2.2 ≠ .now (.ok true) := by
  obtain ⟨token, adapter, serves⟩ := verifiedOnce_servesLedger
  obtain ⟨held, app, present, _, verifies⟩ :=
    ready_matches_device serves lockedAndOpened_handled rfl rfl
  refine ⟨adapter, rfl, held, app, present rfl, ?_⟩
  intro said
  cases ((verifies "left").mp said).2

theorem ready_over_locked_device :
    ¬∀ (first later : Connection SimulatedBench) (made : List DeviceChange) (token : Token)
      (adapter : AdapterId), first.ServesLedger token adapter → Handled first made later →
        later.inbox = [] → later.state = .ready →
          later.bench.device.present = true ∧ later.bench.device.locked = false ∧
            later.bench.device.openApp = Wallet.ledger.expectedApp? := by
  intro always
  obtain ⟨token, adapter, serves⟩ := verifiedOnce_servesLedger
  have matched := always verifiedOnce lockedAndOpened _ token adapter serves
    lockedAndOpened_handled rfl rfl
  cases matched.2.1

end Connection

end SignerLink
