import SignerLink.Proofs.Connection.Backing
import SignerLink.Proofs.Connection.Engaged
/-!
A session that shows that it is disconnected and holds an adapter all the same. Only two events
bring it about: a notice of the adapter that its device is gone, and leaving a failure while the
adapter is not connected. Nothing else takes a session there.
-/

namespace SignerLink

namespace Connection

variable {Bench : Type}

structure IsStranded (connection : Connection Bench) : Prop where
  shown : connection.state = .disconnected
  holding : connection.session.adapter.isSome = true

structure KeepsAdapter (before after : Connection Bench) : Prop where
  published : after.published = before.published
  adapter : after.session.adapter = before.session.adapter

/-- What leads from the first to the second strands no session that was not stranded. -/
def StrandsNothing (before after : Connection Bench) : Prop :=
  after.IsStranded → before.IsStranded ∧ before.KeepsAdapter after

theorem KeepsAdapter.stranded {before after : Connection Bench} (keeps : before.KeepsAdapter after)
    (stranded : before.IsStranded) : after.IsStranded where
  shown := by
    rw [state, keeps.published]
    exact stranded.shown
  holding := by
    rw [keeps.adapter]
    exact stranded.holding

namespace StrandsNothing

variable {first second third : Connection Bench}

theorem of_keepsAdapter (keeps : first.KeepsAdapter second) : first.StrandsNothing second := by
  intro stranded
  have before : second.KeepsAdapter first := ⟨keeps.published.symm, keeps.adapter.symm⟩
  exact ⟨before.stranded stranded, keeps⟩

theorem refl (connection : Connection Bench) : connection.StrandsNothing connection :=
  of_keepsAdapter ⟨rfl, rfl⟩

theorem of_released (released : second.session.adapter = none) : first.StrandsNothing second := by
  intro stranded
  have holding := stranded.holding
  rw [released] at holding
  cases holding

theorem of_shown (shown : second.state ≠ .disconnected) : first.StrandsNothing second :=
  fun stranded => absurd stranded.shown shown

theorem trans (earlier : first.StrandsNothing second) (later : second.StrandsNothing third) :
    first.StrandsNothing third := by
  intro stranded
  obtain ⟨between, rest⟩ := later stranded
  obtain ⟨before, start⟩ := earlier between
  exact ⟨before, rest.published.trans start.published, rest.adapter.trans start.adapter⟩

end StrandsNothing

variable {connection : Connection Bench} {token : Token}

theorem publish_strandsNothing {event : StateEvent} (other : event ≠ .disconnected) :
    connection.StrandsNothing (connection.publish event) :=
  .of_shown (publish_ne_disconnected other)

theorem verdict_ne_disconnected {event : StateEvent} (verdict : event.isVerdict) :
    event ≠ .disconnected := by
  rintro rfl
  cases verdict

variable [AdapterBench Bench]

theorem ask_strandsNothing (adapter : AdapterId) (request : AdapterRequest) :
    connection.StrandsNothing (connection.ask adapter request).1 :=
  .of_keepsAdapter ⟨by simp [ask], by simp [ask]⟩

theorem await_strandsNothing (adapter : AdapterId) (request : AdapterRequest) :
    connection.StrandsNothing (connection.await adapter request).1 :=
  .of_keepsAdapter ⟨await_published _ _ _, by rw [await_session]⟩

theorem discard_strandsNothing (adapter : AdapterId) :
    connection.StrandsNothing (connection.discard adapter) := by
  by_cases held : connection.session.adapter = some adapter
  · exact .of_released (by rw [discard_session, if_pos held])
  · exact .of_keepsAdapter ⟨discard_published _ _, by rw [discard_session, if_neg held]⟩

theorem failAttempt_strandsNothing (error : WalletError) :
    connection.StrandsNothing (connection.failAttempt error).1 :=
  .of_released (by rw [failAttempt_session])

/-! Attempts. -/

theorem connectAnswered_strandsNothing (wallet : Wallet) (adapter : AdapterId)
    (answer : AdapterAnswer) :
    connection.StrandsNothing (connection.connectAnswered token wallet adapter answer).1 := by
  simp only [connectAnswered]
  split
  next => exact discard_strandsNothing adapter
  next =>
    cases answer with
    | error error => exact failAttempt_strandsNothing _
    | ok _ => exact .of_shown (publish_ne_disconnected (by simp))

theorem openAdapter_strandsNothing (shown : connection.state ≠ .disconnected) (wallet : Wallet)
    (deviceId : String) :
    connection.StrandsNothing (connection.openAdapter token wallet deviceId).1 := by
  simp only [openAdapter]
  split
  next => exact .of_released (by simp)
  next bench adapter _ =>
    generalize opened : setSession { setSession connection _ with bench := bench } _ = next
    have installed : connection.StrandsNothing next := .of_shown (by rw [← opened]; exact shown)
    have asked := installed.trans (next.ask_strandsNothing adapter (.connect deviceId))
    rcases reached : next.ask adapter (.connect deviceId) with ⟨later, reply⟩
    rw [reached] at asked
    cases reply with
    | later milliseconds => exact asked
    | now answer => exact asked.trans (connectAnswered_strandsNothing wallet adapter answer)

theorem searched_strandsNothing (busy : connection.interruption? token = none →
      connection.state ≠ .disconnected) (wallet : Wallet) (found : DeviceSearch) :
    connection.StrandsNothing (connection.searched token wallet found).1 := by
  simp only [searched]
  split
  next => exact .refl connection
  next current =>
    split
    next deviceId => exact openAdapter_strandsNothing (busy current) wallet deviceId
    next => exact failAttempt_strandsNothing _
    next => exact failAttempt_strandsNothing _

theorem connect_strandsNothing (wallet : Wallet) (target : Target) :
    connection.StrandsNothing (connection.connect wallet target).1 := by
  have begun (deviceId : Option String) := connection.beginAttempt_state wallet deviceId
  simp only [connect]
  split
  next => exact .refl connection
  next =>
    split
    next deviceId =>
      exact .trans (.of_shown (begun (some deviceId)))
        (openAdapter_strandsNothing (begun (some deviceId)) wallet deviceId)
    next found milliseconds =>
      have searched (token : Token) : (connection.beginAttempt wallet none).1.StrandsNothing
          ((connection.beginAttempt wallet none).1.searched token wallet found).1 :=
        searched_strandsNothing (fun _ => begun none) wallet found
      split
      · exact .trans (.of_shown (begun none)) (searched _)
      · exact .of_shown (begun none)

theorem resumeAttempt_strandsNothing (call : AttemptCall)
    (busy : connection.interruption? call.token = none → connection.state ≠ .disconnected) :
    connection.StrandsNothing (connection.resumeAttempt call).1 := by
  cases call with
  | searching token wallet found => exact searched_strandsNothing busy wallet found
  | connecting token wallet deviceId adapter =>
      exact (await_strandsNothing adapter (.connect deviceId)).trans
        (connectAnswered_strandsNothing wallet adapter _)

/-! Readiness. -/

omit [AdapterBench Bench] in
theorem verifyAnswered_strandsNothing (wallet : Wallet) (answer : AdapterAnswer) :
    connection.StrandsNothing (connection.verifyAnswered token wallet answer).1 := by
  rcases connection.verifyAnswered_cases token wallet answer with
    ⟨_, same⟩ | ⟨_, event, verdict, seen⟩
  · rw [same]
    exact .refl connection
  · rw [seen]
    exact publish_strandsNothing (verdict_ne_disconnected verdict)

theorem verify_strandsNothing (wallet : Wallet) (deviceId : String) (adapter : AdapterId) :
    connection.StrandsNothing (connection.verify token wallet deviceId adapter).1 := by
  have asked := connection.ask_strandsNothing adapter (.verify deviceId)
  simp only [verify]
  rcases reached : connection.ask adapter (.verify deviceId) with ⟨later, reply⟩
  rw [reached] at asked
  cases reply with
  | later milliseconds => exact asked
  | now answer => exact asked.trans (verifyAnswered_strandsNothing wallet answer)

theorem verifyConnected_strandsNothing (wallet : Wallet) (progress : AttemptProgress) :
    connection.StrandsNothing (connection.verifyConnected wallet progress).1 := by
  simp only [verifyConnected]
  split
  next => exact .refl connection
  next =>
    split
    next =>
      split
      next => exact .refl connection
      next token deviceId adapter _ => exact verify_strandsNothing wallet deviceId adapter
    next => exact .refl connection

theorem makeReady_strandsNothing (wallet : Wallet) (wanted : Option String) (found : DeviceSearch)
    (milliseconds : Nat) :
    connection.StrandsNothing (connection.makeReady wallet wanted found milliseconds).1 := by
  simp only [makeReady]
  split
  next => exact .refl connection
  next token deviceId adapter _ => exact verify_strandsNothing wallet deviceId adapter
  next => exact (connect_strandsNothing wallet _).trans (verifyConnected_strandsNothing wallet _)

theorem resumeReadiness_strandsNothing (call : ReadinessCall)
    (busy : ∀ wallet attempt, call = .attempting wallet attempt →
      connection.interruption? attempt.token = none → connection.state ≠ .disconnected) :
    connection.StrandsNothing (connection.resumeReadiness call).1 := by
  cases call with
  | attempting wallet call =>
      exact (resumeAttempt_strandsNothing call (busy wallet call rfl)).trans
        (verifyConnected_strandsNothing wallet _)
  | verifying token wallet deviceId adapter =>
      exact (await_strandsNothing adapter (.verify deviceId)).trans
        (verifyAnswered_strandsNothing wallet _)

/-! Letting go. -/

theorem disconnectAnswered_strandsNothing (call : DisconnectCall)
    (leads : connection.session.token = some call.token →
      connection.session.adapter = none ∨ connection.session.adapter = some call.adapter) :
    connection.StrandsNothing (connection.disconnectAnswered call) := by
  by_cases current : connection.session.token = some call.token
  · refine .of_released ?_
    rw [disconnectAnswered_session, if_pos current, discard_session]
    rcases leads current with none | held
    · split
      · rfl
      · exact none
    · rw [if_pos held]
  · have stale : (connection.discard call.adapter).session.token ≠ some call.token := by
      rwa [discard_token]
    rw [disconnectAnswered, finishDisconnect_stale _ stale]
    exact discard_strandsNothing call.adapter

theorem disconnect_strandsNothing : connection.StrandsNothing connection.disconnect.1 := by
  rw [disconnect_eq]
  cases held : connection.session.adapter with
  | none => exact .of_released (by rw [supersede_finishDisconnect_session, held])
  | some adapter =>
      have superseded : connection.StrandsNothing connection.supersede :=
        .of_keepsAdapter ⟨rfl, rfl⟩
      have asked := superseded.trans (connection.supersede.ask_strandsNothing adapter .disconnect)
      have kept : (connection.supersede.ask adapter .disconnect).1.session.adapter =
          some adapter := by
        rw [ask, deliver_session]
        exact held
      simp only
      rcases reached : connection.supersede.ask adapter .disconnect with ⟨later, reply⟩
      rw [reached] at asked kept
      cases reply with
      | later milliseconds => exact asked
      | now answer => exact asked.trans (disconnectAnswered_strandsNothing _ fun _ => .inr kept)

theorem resumeDisconnect_strandsNothing (call : DisconnectCall)
    (leads : connection.session.token = some call.token →
      connection.session.adapter = none ∨ connection.session.adapter = some call.adapter) :
    connection.StrandsNothing (connection.resumeDisconnect call).1 := by
  refine (await_strandsNothing call.adapter .disconnect).trans
    (disconnectAnswered_strandsNothing call ?_)
  rwa [await_session]

/-! Operations. -/

omit [AdapterBench Bench] in
theorem operationAnswered_strandsNothing (call : OperationCall) :
    connection.StrandsNothing (connection.operationAnswered call).1 := by
  rcases connection.operationAnswered_cases call with ⟨_, same⟩ | ⟨_, event, verdict, seen⟩
  · rw [same]
    exact .refl connection
  · rw [seen]
    exact publish_strandsNothing (verdict_ne_disconnected verdict)

theorem operate_strandsNothing (operation : Operation) :
    connection.StrandsNothing (connection.operate operation).1 := by
  simp only [operate]
  split
  next =>
    have begun : connection.StrandsNothing
        (if connection.cancelled = true then connection
          else connection.publish .awaitingConfirmation) := by
      split
      · exact .refl connection
      · exact publish_strandsNothing (by simp)
    split
    · exact begun.trans (operationAnswered_strandsNothing _)
    · exact begun
  next => exact .refl connection

/-! Calls. -/

theorem begin_strandsNothing (request : ConnectionRequest) :
    connection.StrandsNothing (connection.begin request).1 := by
  cases request with
  | connect wallet target => exact connect_strandsNothing wallet target
  | disconnect => exact disconnect_strandsNothing
  | makeReady wallet wanted found milliseconds =>
      exact makeReady_strandsNothing wallet wanted found milliseconds
  | operate operation => exact operate_strandsNothing operation

/-- What the flight of a call may rely on when the call is resumed. -/
structure Awaits (connection : Connection Bench) (flight : Flight) : Prop where
  attempt : ∀ token adapter, flight = .attempt token adapter →
    connection.session.token = some token → connection.state ≠ .disconnected
  disconnect : ∀ token adapter, flight = .disconnect token adapter →
    connection.session.token = some token →
      connection.session.adapter = none ∨ connection.session.adapter = some adapter

theorem AttemptCall.flight_eq (call : AttemptCall) :
    ∃ adapter, call.flight = .attempt call.token adapter := by
  cases call with
  | searching => exact ⟨none, rfl⟩
  | connecting _ _ _ adapter => exact ⟨some adapter, rfl⟩

theorem resume_strandsNothing (call : ConnectionCall) (awaits : connection.Awaits call.flight) :
    connection.StrandsNothing (connection.resume call).1 := by
  have busy (attempt : AttemptCall) (flies : call.flight = attempt.flight)
      (current : connection.interruption? attempt.token = none) :
      connection.state ≠ .disconnected := by
    obtain ⟨adapter, flight⟩ := AttemptCall.flight_eq attempt
    exact awaits.attempt _ adapter (flies.trans flight) (interruption?_eq_none.mp current).2
  cases call with
  | attempt call => exact resumeAttempt_strandsNothing call (busy call rfl)
  | readiness call =>
      refine resumeReadiness_strandsNothing call ?_
      rintro wallet attempt rfl
      exact busy attempt rfl
  | disconnect call =>
      exact resumeDisconnect_strandsNothing call (awaits.disconnect call.token call.adapter rfl)
  | operation call => exact operationAnswered_strandsNothing call

/-! Events. -/

/-- A notice that shows that the device is gone, from the adapter that the session holds. -/
structure HearsLoss (connection : Connection Bench) (token : Token) (notice : Notice) : Prop where
  live : connection.cancelled = false
  still : connection.session.connecting = false
  holding : connection.session.adapter.isSome = true
  current : connection.session.token = some token
  gone : notice.kind = .disconnected

inductive Strands (connection : Connection Bench) : ConnectionEvent → Prop where
  | noticed (token : Token) (notice : Notice) : connection.HearsLoss token notice →
      connection.Strands (.noticed token notice)
  | pumped (signal : Signal) (rest : List Signal) : connection.inbox = signal :: rest →
      connection.HearsLoss signal.token signal.notice → connection.Strands .pump
  | cleared : connection.cancelled = false → connection.session.connecting = false →
      connection.session.adapter.isSome = true → connection.isAdapterConnected = false →
      connection.Strands .clearError

omit [AdapterBench Bench] in
theorem publish_disconnected_strandsNothing
    (unheld : connection.session.connecting = false → connection.session.adapter = none) :
    connection.StrandsNothing (connection.publish .disconnected) := by
  cases busy : connection.session.connecting with
  | true =>
      rw [publish_hidden busy]
      exact .refl connection
  | false =>
      have shown := congrArg Session.adapter (publish_session connection .disconnected)
      exact .of_released (shown.trans (unheld busy))

omit [AdapterBench Bench] in
theorem HearsLoss.strands {notice : Notice} (hears : connection.HearsLoss token notice) :
    (connection.handleNotice token notice).IsStranded := by
  have event : StateEvent.ofNotice notice connection.session.wallet = .disconnected := by
    simp [StateEvent.ofNotice, hears.gone]
  have shows : connection.handleNotice token notice = connection.publish .disconnected := by
    simp [handleNotice, hears.live, hears.current, hears.gone, event]
  rw [shows]
  exact ⟨publish_disconnected hears.still, by simpa using hears.holding⟩

omit [AdapterBench Bench] in
theorem handleNotice_strandsNothing {notice : Notice}
    (unheard : ¬connection.HearsLoss token notice) :
    connection.StrandsNothing (connection.handleNotice token notice) := by
  simp only [handleNotice]
  split
  next => exact .refl connection
  next heard =>
    by_cases gone : notice.kind = .disconnected
    · have event : StateEvent.ofNotice notice connection.session.wallet = .disconnected := by
        simp [StateEvent.ofNotice, gone]
      simp only [gone, reduceCtorEq, if_false, event]
      refine publish_disconnected_strandsNothing fun still => ?_
      by_contra held
      exact unheard ⟨by simp_all, still, by simpa [Option.isSome_iff_ne_none] using held,
        by simp_all, gone⟩
    · exact .of_shown (publish_ne_disconnected (StateEvent.ofNotice_ne_disconnected gone _))

theorem react_strands {event : ConnectionEvent} (strands : connection.Strands event) :
    (connection.react event).IsStranded := by
  cases strands with
  | noticed token notice hears => exact hears.strands
  | pumped signal rest waiting hears =>
      have later : ({ connection with inbox := rest } : Connection Bench).HearsLoss signal.token
          signal.notice :=
        ⟨hears.live, hears.still, hears.holding, hears.current, hears.gone⟩
      simp only [react, pump, waiting]
      exact later.strands
  | cleared live still holding apart =>
      have shows : connection.clearError = connection.publish .disconnected := by
        simp [clearError, live, apart]
      rw [react, shows]
      exact ⟨publish_disconnected still, by simpa using holding⟩

theorem clearError_strandsNothing (other : ¬connection.Strands .clearError) :
    connection.StrandsNothing connection.clearError := by
  simp only [clearError]
  split
  next => exact .refl connection
  next live =>
    split
    next => exact publish_strandsNothing (by simp)
    next apart =>
      refine publish_disconnected_strandsNothing fun still => ?_
      by_contra held
      exact other (.cleared (by simpa using live) still
        (by simpa [Option.isSome_iff_ne_none] using held) (by simpa using apart))

theorem react_strandsNothing {event : ConnectionEvent} (other : ¬connection.Strands event) :
    connection.StrandsNothing (connection.react event) := by
  cases event with
  | reset => exact .of_released (by simp [react])
  | teardown => exact .of_released (by simp [react])
  | cancel => exact .of_keepsAdapter ⟨rfl, rfl⟩
  | clearError => exact clearError_strandsNothing other
  | lost error =>
      simp only [react, handleDisconnect]
      split
      · exact .refl connection
      · exact .of_released (by simp)
  | noticed token notice =>
      exact handleNotice_strandsNothing fun hears => other (.noticed token notice hears)
  | pump =>
      simp only [react, pump]
      cases waiting : connection.inbox with
      | nil => exact .refl connection
      | cons signal rest =>
          have taken : connection.StrandsNothing { connection with inbox := rest } :=
            .of_keepsAdapter ⟨rfl, rfl⟩
          refine taken.trans (handleNotice_strandsNothing fun hears => ?_)
          exact other (.pumped signal rest waiting
            ⟨hears.live, hears.still, hears.holding, hears.current, hears.gone⟩)
  | closeInbox => exact .of_keepsAdapter ⟨rfl, rfl⟩

end Connection

namespace Run

variable {Bench : Type} [AdapterBench Bench] {evolves : Bench → Bench → Prop}
  {before after run : Run Bench}

theorem Step.stranded
    (awaits : ∀ flight ∈ before.situation.flights, before.connection.Awaits flight)
    (step : Step evolves before after) (stranded : after.connection.IsStranded) :
    before.connection.IsStranded ∧ before.connection.KeepsAdapter after.connection ∨
      ∃ event, before.connection.Strands event ∧ after = before.react event := by
  cases step with
  | begin _ request => exact .inl (Connection.begin_strandsNothing request stranded)
  | resume connection call others isOver =>
      have flies : call.flight ∈ (situation ⟨connection, call ::ₘ others, isOver⟩).flights :=
        Multiset.mem_map_of_mem _ (Multiset.mem_cons_self _ _)
      exact .inl (Connection.resume_strandsNothing call (awaits _ flies) stranded)
  | react _ event =>
      by_cases strands : before.connection.Strands event
      · exact .inr ⟨event, strands, rfl⟩
      · exact .inl (Connection.react_strandsNothing strands stranded)
  | onBench _ change _ =>
      have session : (before.connection.onBench change).session = before.connection.session :=
        Connection.deliver_session _ _
      have keeps : before.connection.KeepsAdapter (before.connection.onBench change) :=
        ⟨Connection.deliver_published _ _, congrArg Session.adapter session⟩
      exact .inl (Connection.StrandsNothing.of_keepsAdapter keeps stranded)

def StepKeepingAdapter (evolves : Bench → Bench → Prop) (before after : Run Bench) : Prop :=
  Step evolves before after ∧ before.connection.KeepsAdapter after.connection

theorem StepKeepingAdapter.stranded
    (rest : Relation.ReflTransGen (StepKeepingAdapter evolves) before after)
    (stranded : before.connection.IsStranded) : after.connection.IsStranded := by
  induction rest with
  | refl => exact stranded
  | tail _ step ih => exact step.2.stranded ih

variable [FreshBench Bench]

theorem Reachable.awaits (reachable : run.Reachable FreshBench.evolves)
    (goesOn : run.isOver = false) (flight : Flight) (flies : flight ∈ run.situation.flights) :
    run.connection.Awaits flight := by
  have engaged := reachable.engaged FreshBench.serves
  have led := (reachable.sound_truthful goesOn).1.led
  constructor
  · rintro token adapter rfl current
    exact engaged.shown (engaged.attempts token adapter current flies)
  · rintro token adapter rfl current
    obtain ⟨others, same⟩ := Multiset.exists_cons_of_mem flies
    rw [same] at led
    exact led.disconnect_leads current

/-- While the session goes on, it shows that it is disconnected and holds an adapter exactly when
its adapter's notice that the device is gone, or leaving a failure while the adapter is not
connected, has brought it there, and nothing was published and no adapter changed since. -/
theorem disconnected_with_adapter_iff (reachable : run.Reachable FreshBench.evolves)
    (goesOn : run.isOver = false) :
    (run.connection.state = .disconnected ∧ run.connection.session.adapter.isSome = true) ↔
      ∃ (before : Run Bench) (event : ConnectionEvent), before.Reachable FreshBench.evolves ∧
        before.connection.Strands event ∧
          Relation.ReflTransGen (StepKeepingAdapter FreshBench.evolves)
            (before.react event) run := by
  constructor
  · rintro ⟨shown, holding⟩
    have stranded : run.connection.IsStranded := ⟨shown, holding⟩
    clear shown holding
    obtain ⟨bench, steps⟩ := reachable
    induction steps with
    | refl => cases stranded.holding
    | @tail before after steps step ih =>
        have earlier := step.isOver_of goesOn
        have reached : before.Reachable FreshBench.evolves := ⟨bench, steps⟩
        rcases step.stranded (reached.awaits earlier) stranded with
          ⟨already, keeps⟩ | ⟨event, strands, rfl⟩
        · obtain ⟨first, event, origin, strands, rest⟩ := ih earlier already
          exact ⟨first, event, origin, strands, rest.tail ⟨step, keeps⟩⟩
        · exact ⟨before, event, reached, strands, .refl⟩
  · rintro ⟨before, event, _, strands, rest⟩
    have stranded := StepKeepingAdapter.stranded rest (Connection.react_strands strands)
    exact ⟨stranded.shown, stranded.holding⟩

def unplugged : Run SimulatedBench :=
  let opened := (start {}).begin (.connect .ledger (.device "left"))
  { opened with connection := opened.connection.onBench (·.setPresent false) }

theorem unplugged_reachable : unplugged.Reachable FreshBench.evolves :=
  ⟨{}, .tail (.tail .refl (.begin _ _)) (.onBench _ _ (Nat.le_refl 1))⟩

theorem disconnected_with_adapter_iff_unplugged :
    (unplugged.react .pump).connection.state = .disconnected ∧
      (unplugged.react .pump).connection.session.adapter.isSome = true := by
  have reachable : (unplugged.react .pump).Reachable FreshBench.evolves := by
    obtain ⟨bench, steps⟩ := unplugged_reachable
    exact ⟨bench, steps.tail (.react _ _)⟩
  have strands : unplugged.connection.Strands .pump :=
    .pumped ⟨0, 1, { kind := .disconnected }⟩ [] rfl ⟨rfl, rfl, rfl, rfl, rfl⟩
  exact (disconnected_with_adapter_iff reachable rfl).mpr
    ⟨unplugged, .pump, unplugged_reachable, strands, .refl⟩

theorem disconnected_state_with_adapter :
    ¬∀ run : Run SimulatedBench, run.Reachable FreshBench.evolves → run.isOver = false →
      (∀ call ∈ run.calls, call.flight.isOwner = false) →
      run.connection.state = .disconnected → run.connection.session.adapter = none := by
  intro released
  obtain ⟨bench, steps⟩ := unplugged_reachable
  have reachable : (unplugged.react .pump).Reachable FreshBench.evolves :=
    ⟨bench, steps.tail (.react _ _)⟩
  have calls : (unplugged.react .pump).calls = 0 + 0 := rfl
  have none := released (unplugged.react .pump) reachable rfl (by simp [calls]) rfl
  have held : (unplugged.react .pump).connection.session.adapter = some 0 := rfl
  rw [held] at none
  cases none

end Run

end SignerLink
