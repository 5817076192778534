import SignerLink.Proofs.Connection.Watching
/-!
Who hears of a change of a simulated device. The device keeps one list of listeners; a connect adds
to it when it completes, whatever was there before, and a disconnect or the end of the adapter
clears it of the adapter. What a listener is told goes to the receiver of the adapter's events, if
there is one.
-/

namespace SignerLink

/-! Where the events of an adapter go. -/

/-- Nobody receives at the end of a detached sender, or after a session is gone. -/
structure Outlet where
  isOpen : Bool := true
  queued : List Signal := []
  deriving DecidableEq, Repr

namespace Outlet

variable {outlet : Outlet}

def take (outlet : Outlet) (signal : Signal) : Outlet :=
  if outlet.isOpen then { outlet with queued := outlet.queued ++ [signal] } else outlet

theorem foldl_take (signals : List Signal) :
    signals.foldl take outlet =
      { outlet with queued := outlet.queued ++ if outlet.isOpen then signals else [] } := by
  induction signals generalizing outlet with
  | nil => simp
  | cons signal later ih =>
      rw [List.foldl_cons, ih]
      by_cases hears : outlet.isOpen = true
      · simp [take, hears]
      · simp [take, hears]

end Outlet

def Connection.outlet {Bench : Type} (connection : Connection Bench) : Outlet :=
  ⟨connection.inboxOpen, connection.inbox⟩

theorem Connection.deliver_outlet {Bench : Type} (connection : Connection Bench)
    (signals : List Signal) :
    (connection.deliver signals).outlet = signals.foldl Outlet.take connection.outlet := by
  rw [Outlet.foldl_take, deliver, outlet, outlet]
  by_cases receives : connection.inboxOpen = true <;> simp [receives]

/-! Listeners on a bench. -/

namespace SimulatedBench

variable {bench later : SimulatedBench} {id other : AdapterId} {adapter : SimulatedAdapter}
  {count : Nat}

def tokenOf (bench : SimulatedBench) (id : AdapterId) : Token :=
  (bench.adapters[id]?.map SimulatedAdapter.token).getD 0

def listenersOf (bench : SimulatedBench) (id : AdapterId) : List (AdapterId × Token) :=
  bench.device.listeners.filter fun listener => listener.1 = id

/-- An adapter that connected `count` times since it last stopped listens as often. -/
structure Tuned (bench : SimulatedBench) (id : AdapterId) (count : Nat) : Prop where
  listeners : bench.listenersOf id = List.replicate count (id, bench.tokenOf id)
  connected : bench.isConnected id = true ↔ 0 < count

theorem Tuned.congr (tuned : bench.Tuned id count)
    (adapters : later.adapters[id]? = bench.adapters[id]?)
    (listeners : later.listenersOf id = bench.listenersOf id) : later.Tuned id count where
  listeners := by rw [listeners, tuned.listeners, tokenOf, tokenOf, adapters]
  connected := by
    rw [← tuned.connected, isConnected, isConnected, adapters]

theorem Tuned.of_silent (connected : bench.isConnected id = false)
    (listeners : bench.listenersOf id = []) : bench.Tuned id 0 where
  listeners := listeners
  connected := by simp [connected]

theorem Tuned.silent (tuned : bench.Tuned id count) (off : bench.isConnected id = false) :
    count = 0 ∧ bench.listenersOf id = [] := by
  have none : count = 0 := by
    have := tuned.connected
    rw [off] at this
    simpa using this
  refine ⟨none, ?_⟩
  rw [tuned.listeners, none, List.replicate_zero]

theorem Tuned.replicate_of_le_one (tuned : bench.Tuned id count) (once : count ≤ 1)
    (signal : Signal) :
    List.replicate count signal = if bench.isConnected id = true then [signal] else [] := by
  by_cases on : bench.isConnected id = true
  · have one : count = 1 := Nat.le_antisymm once (tuned.connected.mp on)
    rw [if_pos on, one, List.replicate_one]
  · rw [if_neg on, (tuned.silent (Bool.eq_false_iff.mpr on)).1, List.replicate_zero]

theorem forget_adapters (other : AdapterId) :
    (bench.forget other).adapters = bench.adapters := rfl

theorem forget_listenersOf (other : AdapterId) :
    (bench.forget other).listenersOf id = if other = id then [] else bench.listenersOf id := by
  rw [listenersOf, listenersOf, forget, List.filter_filter]
  split
  next same =>
    subst same
    simp
  next apart =>
    apply List.filter_congr
    intro listener _
    by_cases own : listener.1 = id
    · simp [own, Ne.symm apart]
    · simp [own]

theorem setAdapter_getElem? (known : bench.adapters[other]? = some adapter)
    (changed : SimulatedAdapter) :
    (bench.setAdapter other changed).adapters[id]? =
      if other = id then some changed else bench.adapters[id]? := by
  obtain ⟨bound, _⟩ := List.getElem?_eq_some_iff.mp known
  rw [setAdapter, List.getElem?_set, if_pos bound]

theorem finishConnect_cases (bench : SimulatedBench) (other : AdapterId) :
    (bench.finishConnect other).2.isOk = false ∧
        (bench.finishConnect other).1.adapters = bench.adapters ∧
        (bench.finishConnect other).1.device.listeners = bench.device.listeners ∨
      ∃ adapter, bench.adapters[other]? = some adapter ∧ adapter.destroyed = false ∧
        (bench.finishConnect other).2.isOk = true ∧
        (bench.finishConnect other).1.adapters =
          (bench.setAdapter other { adapter with connected := true }).adapters ∧
        (bench.finishConnect other).1.device.listeners =
          bench.device.listeners ++ [(other, adapter.token)] := by
  cases known : bench.adapters[other]? with
  | none =>
      refine .inl ?_
      simp [finishConnect, known, Except.isOk, Except.toBool]
  | some adapter =>
      simp only [finishConnect, known]
      cases bench.device.nextFailure with
      | some error => exact .inl ⟨rfl, rfl, rfl⟩
      | none =>
          cases bench.device.present with
          | false => exact .inl ⟨rfl, rfl, rfl⟩
          | true =>
              cases gone : adapter.destroyed with
              | true => exact .inl ⟨rfl, rfl, rfl⟩
              | false => exact .inr ⟨adapter, rfl, gone, rfl, by rw [gone]; rfl, rfl⟩

theorem finish_bench (other : AdapterId) {request : AdapterRequest}
    (connects : request ≠ .disconnect) :
    (bench.finish other request).1 = (bench.finishConnect other).1 := by
  cases request with
  | disconnect => exact absurd rfl connects
  | connect deviceId => rfl
  | verify deviceId =>
      simp only [finish]
      split
      next connected => rw [connected]
      next connected => rw [connected]

theorem Tuned.finishConnect (tuned : bench.Tuned id count) (other : AdapterId) :
    (bench.finishConnect other).1.Tuned id
      (if other = id ∧ (bench.finishConnect other).2.isOk = true then count + 1 else count) := by
  rcases bench.finishConnect_cases other with
    ⟨failed, adapters, listeners⟩ | ⟨adapter, known, live, done, adapters, listeners⟩
  · rw [failed, if_neg (by simp)]
    exact tuned.congr (by rw [adapters]) (by rw [listenersOf, listeners, listenersOf])
  · rw [done]
    by_cases same : other = id
    · subst same
      rw [if_pos ⟨rfl, rfl⟩]
      have found : (bench.finishConnect other).1.adapters[other]? =
          some { adapter with connected := true } := by
        rw [adapters, setAdapter_getElem? known, if_pos rfl]
      have token : bench.tokenOf other = adapter.token := by
        rw [tokenOf, known, Option.map_some, Option.getD_some]
      refine ⟨?_, ?_⟩
      · have same : (bench.finishConnect other).1.tokenOf other = adapter.token := by
          rw [tokenOf, found, Option.map_some, Option.getD_some]
        rw [listenersOf, listeners, List.filter_append, ← listenersOf, tuned.listeners, token, same,
          List.replicate_succ']
        simp
      · rw [isConnected, found]
        simp [SimulatedAdapter.isConnected, live]
    · rw [if_neg (by simp [same])]
      refine tuned.congr ?_ ?_
      · rw [adapters, setAdapter_getElem? known, if_neg same]
      · rw [listenersOf, listeners, List.filter_append, ← listenersOf]
        simp [same]

theorem Tuned.finish (tuned : bench.Tuned id count) (other : AdapterId) (request : AdapterRequest) :
    (bench.finish other request).1.Tuned id
      (if other = id ∧ request ≠ .disconnect ∧ (bench.finishConnect other).2.isOk = true then
        count + 1 else count) := by
  by_cases connects : request = .disconnect
  · subst connects
    rw [if_neg (by simp)]
    exact tuned
  · rw [finish_bench other connects]
    simp only [ne_eq, connects, not_false_eq_true, true_and]
    exact tuned.finishConnect other

theorem Tuned.begin (tuned : bench.Tuned id count) (other : AdapterId) (request : AdapterRequest) :
    (bench.begin other request).1.Tuned id
      (if other = id ∧ request = .disconnect then 0 else count) := by
  rw [SimulatedBench.begin]
  cases known : bench.adapters[other]? with
  | none =>
      by_cases same : other = id
      · subst same
        have off := tuned.silent (by rw [isConnected, known])
        rw [off.1, ite_self]
        exact off.1 ▸ tuned
      · rw [if_neg (by simp [same])]
        exact tuned
  | some adapter =>
      cases request with
      | connect deviceId =>
          rw [if_neg (by simp)]
          exact tuned
      | verify deviceId =>
          rw [if_neg (by simp)]
          dsimp only
          split <;> exact tuned
      | disconnect =>
          by_cases same : other = id
          · subst same
            rw [if_pos ⟨rfl, rfl⟩]
            refine .of_silent ?_ ?_
            · simp only [isConnected, forget_adapters, setAdapter_getElem? known]
              rfl
            · rw [forget_listenersOf, if_pos rfl]
          · rw [if_neg (by simp [same])]
            refine tuned.congr ?_ ?_
            · rw [forget_adapters, setAdapter_getElem? known, if_neg same]
            · rw [forget_listenersOf, if_neg same]
              rfl

theorem Tuned.destroy (tuned : bench.Tuned id count) (other : AdapterId) :
    (bench.destroy other).Tuned id (if other = id then 0 else count) := by
  rw [SimulatedBench.destroy]
  by_cases same : other = id
  · subst same
    rw [if_pos rfl]
    cases known : bench.adapters[other]? with
    | none =>
        have off := tuned.silent (by rw [isConnected, known])
        exact off.1 ▸ tuned
    | some adapter =>
        dsimp only
        split
        next gone =>
          have off : bench.isConnected other = false := by
            simp [isConnected, known, SimulatedAdapter.isConnected, gone]
          exact (tuned.silent off).1 ▸ tuned
        next =>
          refine .of_silent ?_ (forget_listenersOf other |>.trans (if_pos rfl))
          simp only [isConnected, forget_adapters, setAdapter_getElem? known]
          rfl
  · rw [if_neg same]
    cases known : bench.adapters[other]? with
    | none => exact tuned
    | some adapter =>
        dsimp only
        split
        next => exact tuned
        next =>
          refine tuned.congr ?_ (forget_listenersOf other |>.trans (if_neg same))
          rw [forget_adapters, setAdapter_getElem? known, if_neg same]

theorem Tuned.add (tuned : bench.Tuned id count) (wallet : Wallet) (token : Token) :
    (bench.add wallet token).1.Tuned id count := by
  by_cases new : id = bench.adapters.length
  · subst new
    have off := tuned.silent (by simp [isConnected])
    rw [off.1]
    refine .of_silent ?_ off.2
    simp [isConnected, SimulatedBench.add, SimulatedAdapter.isConnected]
  · -- A number that no adapter has yet is as silent after the step as before.
    refine tuned.congr ?_ rfl
    rcases Nat.lt_or_gt_of_ne new with old | beyond
    · exact List.getElem?_append_left old
    · have none (adapters : List SimulatedAdapter) (bound : adapters.length ≤ id) :
          adapters[id]? = none := List.getElem?_eq_none bound
      rw [none bench.adapters (by omega), none _ (by simp [SimulatedBench.add]; omega)]

theorem Tuned.setDevice (tuned : bench.Tuned id count) {device : SimulatedDevice}
    (same : device.listeners = bench.device.listeners) :
    (bench.setDevice device).Tuned id count :=
  tuned.congr rfl (congrArg (List.filter _) same)

theorem broadcast_filter (tuned : bench.Tuned id count) (notice : Notice) :
    ((bench.broadcast notice).filter fun signal => signal.adapter = id) =
      List.replicate count ⟨id, bench.tokenOf id, notice⟩ := by
  rw [broadcast, List.filter_map]
  have listeners := tuned.listeners
  rw [listenersOf] at listeners
  simp only [Function.comp_def]
  rw [listeners, List.map_replicate]

end SimulatedBench

/-! Adapters on one device, each with a receiver of its events or none. -/

structure Stage where
  bench : SimulatedBench := {}
  outlets : List Outlet := []

inductive StageAction where
  | add (wallet : Wallet) (token : Token) (attached : Bool)
  | begin (id : AdapterId) (request : AdapterRequest)
  | finish (id : AdapterId) (request : AdapterRequest)
  | destroy (id : AdapterId)
  | change (change : DeviceChange)
  | setLatency (milliseconds : Nat)
  | failNextConnect (error : AdapterError)
  | hangUp (id : AdapterId)

namespace Stage

variable {stage : Stage} {id : AdapterId} {count : Nat}

def send (outlets : List Outlet) (signal : Signal) : List Outlet :=
  outlets.modify signal.adapter (Outlet.take · signal)

def act (stage : Stage) : StageAction → Stage
  | .add wallet token attached =>
      ⟨(stage.bench.add wallet token).1, stage.outlets ++ [{ isOpen := attached }]⟩
  | .begin id request => { stage with bench := (stage.bench.begin id request).1 }
  | .finish id request => { stage with bench := (stage.bench.finish id request).1 }
  | .destroy id => { stage with bench := stage.bench.destroy id }
  | .change change =>
      ⟨(change.apply stage.bench).1, (change.apply stage.bench).2.foldl send stage.outlets⟩
  | .setLatency milliseconds => { stage with bench := stage.bench.setLatency milliseconds }
  | .failNextConnect error => { stage with bench := stage.bench.failNextConnect error }
  | .hangUp id =>
      { stage with outlets := stage.outlets.modify id ({ · with isOpen := false }) }

def after (stage : Stage) (actions : List StageAction) : Stage := actions.foldl act stage

def reached (actions : List StageAction) : Stage := ({} : Stage).after actions

def queuedBy (stage : Stage) (id : AdapterId) : List Signal :=
  (stage.outlets[id]?.map Outlet.queued).getD []

/-- Somebody receives the adapter's events. -/
def IsHeard (stage : Stage) (id : AdapterId) : Prop :=
  stage.outlets[id]?.map Outlet.isOpen = some true

instance : Decidable (stage.IsHeard id) := inferInstanceAs (Decidable (_ = _))

/-- How often an adapter has connected since it last stopped, once an action has happened. -/
def recount (stage : Stage) (id : AdapterId) (count : Nat) : StageAction → Nat
  | .begin other request => if other = id ∧ request = .disconnect then 0 else count
  | .finish other request =>
      if other = id ∧ request ≠ .disconnect ∧ (stage.bench.finishConnect other).2.isOk = true then
        count + 1 else count
  | .destroy other => if other = id then 0 else count
  | .add _ _ _ | .change _ | .setLatency _ | .failNextConnect _ | .hangUp _ => count

def countFrom (stage : Stage) (id : AdapterId) (count : Nat) : List StageAction → Nat
  | [] => count
  | action :: later => (stage.act action).countFrom id (stage.recount id count action) later

def connections (id : AdapterId) (actions : List StageAction) : Nat :=
  ({} : Stage).countFrom id 0 actions

theorem act_tuned (tuned : stage.bench.Tuned id count) (action : StageAction) :
    (stage.act action).bench.Tuned id (stage.recount id count action) := by
  cases action with
  | add wallet token attached => exact tuned.add wallet token
  | begin other request => exact tuned.begin other request
  | finish other request => exact tuned.finish other request
  | destroy other => exact tuned.destroy other
  | change change =>
      have applied := change.apply_eq stage.bench
      rw [act, applied]
      exact tuned.setDevice (change.device_listeners stage.bench.device)
  | setLatency _ | failNextConnect _ => exact tuned.setDevice rfl
  | hangUp other => exact tuned

theorem after_tuned (tuned : stage.bench.Tuned id count) (actions : List StageAction) :
    (stage.after actions).bench.Tuned id (stage.countFrom id count actions) := by
  induction actions generalizing stage count with
  | nil => exact tuned
  | cons action later ih => exact ih (act_tuned tuned action)

theorem reached_tuned (id : AdapterId) (actions : List StageAction) :
    (reached actions).bench.Tuned id (connections id actions) :=
  after_tuned (.of_silent rfl rfl) actions

theorem foldl_send (signals : List Signal) (outlets : List Outlet) :
    (signals.foldl send outlets)[id]? =
      outlets[id]?.map fun outlet =>
        (signals.filter fun signal => signal.adapter = id).foldl Outlet.take outlet := by
  induction signals generalizing outlets with
  | nil => simp
  | cons signal later ih =>
      rw [List.foldl_cons, ih, send, List.getElem?_modify]
      by_cases own : signal.adapter = id
      · rw [List.filter_cons_of_pos (by simpa using own)]
        cases outlets[id]? <;> simp [own]
      · rw [List.filter_cons_of_neg (by simpa using own)]
        cases outlets[id]? <;> simp [own]

theorem change_queuedBy (change : DeviceChange) :
    (stage.act (.change change)).queuedBy id =
      stage.queuedBy id ++
        if stage.IsHeard id then
          (change.apply stage.bench).2.filter fun signal => signal.adapter = id
        else [] := by
  rw [queuedBy, act, foldl_send, queuedBy]
  cases known : stage.outlets[id]? with
  | none => simp [IsHeard, known]
  | some outlet =>
      simp only [Option.map_some, Option.getD_some, Outlet.foldl_take, IsHeard, known]
      cases outlet.isOpen <;> simp

theorem act_queuedBy (action : StageAction) (apart : ∀ change, action ≠ .change change) :
    (stage.act action).queuedBy id = stage.queuedBy id := by
  cases action with
  | change change => exact absurd rfl (apart change)
  | add wallet token attached =>
      rw [queuedBy, act, List.getElem?_append, queuedBy]
      split
      next => rfl
      next beyond =>
        have none : stage.outlets[id]? = none := List.getElem?_eq_none (by omega)
        rw [none]
        cases id - stage.outlets.length <;> rfl
  | hangUp other =>
      rw [queuedBy, act, List.getElem?_modify, queuedBy]
      cases stage.outlets[id]? with
      | none => rfl
      | some outlet => by_cases same : other = id <;> simp [same]
  | begin _ _ | finish _ _ | destroy _ | setLatency _ | failNextConnect _ => rfl

/-- An adapter whose events somebody receives queues what adapters are told of a change as often as
it has connected since it last stopped. -/
theorem notice_queued_per_connection (actions : List StageAction) (id : AdapterId)
    (change : DeviceChange) :
    ((reached actions).act (.change change)).queuedBy id =
      (reached actions).queuedBy id ++
        if (reached actions).IsHeard id then
          change.notice?.elim [] fun notice =>
            List.replicate (connections id actions)
              ⟨id, (reached actions).bench.tokenOf id, notice⟩
        else [] := by
  rw [change_queuedBy, change.apply_eq]
  cases change.notice? with
  | none => rfl
  | some notice =>
      rw [Option.elim_some, SimulatedBench.broadcast_filter (reached_tuned id actions)]
      rfl

/-- The adapters that are connected when the device changes, and only they, queue what adapters are
told of the change, each of them once, provided that somebody receives their events. -/
theorem notice_queued_once (actions : List StageAction) (id : AdapterId)
    (once : connections id actions ≤ 1) :
    (∀ change : DeviceChange,
      ((reached actions).act (.change change)).queuedBy id =
        (reached actions).queuedBy id ++
          if (reached actions).bench.isConnected id = true ∧ (reached actions).IsHeard id then
            (change.notice?.map (Signal.mk id ((reached actions).bench.tokenOf id))).toList
          else []) ∧
      ∀ action, (∀ change, action ≠ .change change) →
        ((reached actions).act action).queuedBy id = (reached actions).queuedBy id := by
  refine ⟨fun change => ?_, act_queuedBy⟩
  rw [notice_queued_per_connection]
  congr 1
  by_cases heard : (reached actions).IsHeard id
  · simp only [heard, and_true, if_true]
    cases change.notice? with
    | none => simp
    | some notice => exact (reached_tuned id actions).replicate_of_le_one once _
  · simp [heard]

/-- One adapter connects while another is verified; then the second one is disconnected. -/
def overlapping : List StageAction :=
  [.add .ledger 1 true, .add .trezor 2 true, .setLatency 10, .begin 0 (.connect "left"),
    .begin 1 (.verify "right"), .finish 1 (.verify "right"), .finish 0 (.connect "left"),
    .begin 1 .disconnect]

theorem notice_queued_once_overlapping :
    ((reached overlapping).act (.change (.openApp "Ethereum"))).queuedBy 0 =
        [⟨0, 1, { kind := .appChanged, app := some "Ethereum" }⟩] ∧
      ((reached overlapping).act (.change (.openApp "Ethereum"))).queuedBy 1 = [] := by
  have first := (notice_queued_once overlapping 0 (by decide)).1 (.openApp "Ethereum")
  have second := (notice_queued_once overlapping 1 (by decide)).1 (.openApp "Ethereum")
  exact ⟨first.trans (by decide), second.trans (by decide)⟩

/-- Every adapter that is connected, and no other, queues what adapters are told of the change. -/
def QueuesOnce (stage : Stage) (change : DeviceChange) : Prop :=
  ∀ id, (stage.act (.change change)).queuedBy id =
    stage.queuedBy id ++
      if stage.bench.isConnected id = true then
        (change.notice?.map (Signal.mk id (stage.bench.tokenOf id))).toList
      else []

def detached : List StageAction :=
  [.add .ledger 0 false, .begin 0 (.connect "left"), .finish 0 (.connect "left")]

def connectedAgain : List StageAction :=
  [.add .ledger 1 true, .begin 0 (.connect "left"), .finish 0 (.connect "left"),
    .begin 0 (.connect "left"), .finish 0 (.connect "left")]

/-- A connected adapter with a detached sender queues nothing, and one that connected twice queues
everything twice. -/
theorem notice_lost_or_repeated :
    ¬QueuesOnce (reached detached) (.openApp "Ethereum") ∧
      ¬QueuesOnce (reached connectedAgain) (.openApp "Ethereum") :=
  ⟨fun queues => absurd (queues 0) (by decide), fun queues => absurd (queues 0) (by decide)⟩

end Stage

end SignerLink
