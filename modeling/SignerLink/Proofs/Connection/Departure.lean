import SignerLink.Adapter.Scripted
import SignerLink.Proofs.Connection.Stranded
import SignerLink.Proofs.Connection.Supersession
/-!
How a disconnect ends. While it waits for its adapter the device may go away by itself, and the
session may be reset; either takes the session from under the disconnect, which then leaves
everything as it finds it.
-/

namespace SignerLink

inductive DisconnectStage where
  | begins
  | waits (call : DisconnectCall)

/-- What has become of a session since a disconnect took it over. -/
inductive Departure where
  | leads
  | lost
  | dropped
  deriving DecidableEq

/-- A request that wants the session for itself. -/
def ConnectionRequest.takesOver : ConnectionRequest → Bool
  | .connect _ _ | .disconnect | .makeReady _ _ _ _ => true
  | .operate _ => false

namespace Departure

variable {Bench : Type}

def after (departure : Departure) (connection : Connection Bench) :
    ConnectionEvent → Departure
  | .reset => .dropped
  | .lost _ =>
      if departure = .leads ∧ ¬(connection.cancelled || connection.session.connecting) then .lost
      else departure
  | .teardown | .cancel | .clearError | .noticed _ _ | .pump | .closeInbox => departure

/-- What is left of the former session when it has come to this. -/
def Leaves (departure : Departure) (token : Token) (former session : Session) : Prop :=
  match departure with
  | .leads =>
      session.token = some token ∧ session.wallet = former.wallet ∧
        session.deviceId = former.deviceId
  | .lost => session = { wallet := former.wallet, deviceId := former.deviceId }
  | .dropped => session = {}

variable {departure : Departure} {token : Token} {former session next : Session}

theorem Leaves.released (leaves : departure.Leaves token former session)
    (overtaken : departure ≠ .leads) :
    session.token = none ∧ session.adapter = none ∧ session.appName = none ∧
      session.connecting = false := by
  cases departure with
  | leads => exact absurd rfl overtaken
  | lost =>
      rw [Leaves] at leaves
      simp [leaves]
  | dropped =>
      rw [Leaves] at leaves
      simp [leaves]

theorem Leaves.of_same (leaves : departure.Leaves token former session)
    (sameToken : next.token = session.token) (sameWallet : next.wallet = session.wallet)
    (sameDevice : next.deviceId = session.deviceId)
    (same : departure ≠ .leads → next = session) : departure.Leaves token former next := by
  cases departure with
  | leads =>
      obtain ⟨current, wallet, device⟩ := leaves
      exact ⟨sameToken.trans current, sameWallet.trans wallet, sameDevice.trans device⟩
  | lost | dropped =>
      rw [same nofun]
      exact leaves

end Departure

variable {Bench : Type} [AdapterBench Bench]

namespace Connection

variable {connection : Connection Bench} {departure : Departure} {token : Token}
  {former : Session}

def departStep (connection : Connection Bench) :
    DisconnectStage → Connection Bench × DisconnectProgress
  | .begins => connection.disconnect
  | .waits call => connection.resumeDisconnect call

/-- The session holds nothing, and nobody is to connect it. -/
structure IsVacated (connection : Connection Bench) : Prop where
  adapter : connection.session.adapter = none
  token : connection.session.token = none
  appName : connection.session.appName = none
  still : connection.session.connecting = false

/-- Nothing is remembered of the session either, and this is shown. -/
structure IsDisconnected (connection : Connection Bench) : Prop where
  session : connection.session = {}
  shown : connection.state = .disconnected

omit [AdapterBench Bench] in
theorem IsDisconnected.isVacated (ends : connection.IsDisconnected) : connection.IsVacated := by
  constructor <;> rw [ends.session]

/-! The steps of a disconnect. -/

inductive Departs (connection : Connection Bench) :
    Connection Bench × DisconnectProgress → Prop where
  | empty : connection.session.adapter = none →
      Departs connection
        (connection.supersede.finishDisconnect (connection.lastToken + 1), .finished ())
  | asks {next : Connection Bench} {adapter : AdapterId} {milliseconds : Nat} :
      connection.session.adapter = some adapter → next.session = connection.supersede.session →
      Departs connection (next, .waiting ⟨connection.lastToken + 1, adapter⟩ milliseconds)
  | answered {next : Connection Bench} {adapter : AdapterId} :
      connection.session.adapter = some adapter → next.session = connection.supersede.session →
      next.cancelled = connection.cancelled →
      Departs connection
        (next.disconnectAnswered ⟨connection.lastToken + 1, adapter⟩, .finished ())

theorem disconnect_departs (connection : Connection Bench) :
    connection.Departs connection.disconnect := by
  rw [disconnect_eq]
  split
  next released => exact .empty released
  next adapter held =>
    have session : (connection.supersede.ask adapter .disconnect).1.session =
        connection.supersede.session := deliver_session _ _
    have cancelled : (connection.supersede.ask adapter .disconnect).1.cancelled =
        connection.cancelled := deliver_cancelled _ _
    rcases asked : connection.supersede.ask adapter .disconnect with ⟨next, reply⟩
    rw [asked] at session cancelled
    cases reply with
    | later milliseconds => exact .asks held session
    | now answer => exact .answered held session cancelled

omit [AdapterBench Bench] in
theorem finishDisconnect_isDisconnected (current : connection.session.token = some token)
    (live : connection.cancelled = false) (released : connection.session.adapter = none) :
    (connection.finishDisconnect token).IsDisconnected := by
  rw [finishDisconnect_current connection current live, released]
  exact ⟨publish_session _ _, publish_disconnected rfl⟩

theorem discard_released {adapter : AdapterId}
    (held : connection.session.adapter = none ∨ connection.session.adapter = some adapter) :
    (connection.discard adapter).session.adapter = none := by
  rw [discard_session]
  rcases held with none | same
  · rw [if_neg (by simp [none]), none]
  · rw [if_pos same]

theorem disconnectAnswered_isDisconnected {call : DisconnectCall}
    (current : connection.session.token = some call.token) (live : connection.cancelled = false)
    (held : connection.session.adapter = none ∨ connection.session.adapter = some call.adapter) :
    (connection.disconnectAnswered call).IsDisconnected := by
  exact finishDisconnect_isDisconnected (by rwa [discard_token]) (by rwa [discard_cancelled])
    (discard_released held)

theorem Departs.isDisconnected {begun : Connection Bench × DisconnectProgress}
    (departs : connection.Departs begun) (live : connection.cancelled = false)
    (finished : begun.2 = .finished ()) : begun.1.IsDisconnected := by
  cases departs with
  | empty released => exact finishDisconnect_isDisconnected rfl live released
  | asks _ _ => cases finished
  | answered held session cancelled =>
      refine disconnectAnswered_isDisconnected ?_ (cancelled.trans live) (.inr ?_)
      · rw [session, supersede_session]
      · rw [session, supersede_session, held]

theorem Departs.held {begun : Connection Bench × DisconnectProgress} {call : DisconnectCall}
    {milliseconds : Nat} (departs : connection.Departs begun)
    (waiting : begun.2 = .waiting call milliseconds) :
    connection.session.adapter = some call.adapter := by
  cases departs with
  | empty _ => cases waiting
  | answered _ _ _ => cases waiting
  | asks held _ =>
      cases waiting
      exact held

theorem Departs.leaves {begun : Connection Bench × DisconnectProgress} {call : DisconnectCall}
    {milliseconds : Nat} (departs : connection.Departs begun)
    (waiting : begun.2 = .waiting call milliseconds) :
    Departure.leads.Leaves call.token connection.session begun.1.session := by
  cases departs with
  | empty _ => cases waiting
  | answered _ _ _ => cases waiting
  | asks _ session =>
      cases waiting
      rw [session]
      exact ⟨rfl, rfl, rfl⟩

theorem resumeDisconnect_isDisconnected {call : DisconnectCall}
    (current : connection.session.token = some call.token) (live : connection.cancelled = false)
    (held : connection.session.adapter = none ∨ connection.session.adapter = some call.adapter) :
    (connection.resumeDisconnect call).1.IsDisconnected := by
  have session := connection.await_session call.adapter .disconnect
  have cancelled := connection.await_cancelled call.adapter .disconnect
  have answered : (connection.resumeDisconnect call).1 =
      (connection.await call.adapter .disconnect).1.disconnectAnswered call := rfl
  rw [answered]
  rw [← session] at current held
  exact disconnectAnswered_isDisconnected current (cancelled.trans live) held

/-! What others do to the session while a disconnect waits. -/

theorem Spares.leaves {after : Connection Bench} (spares : connection.Spares after)
    (leaves : departure.Leaves token former connection.session) :
    departure.Leaves token former after.session := by
  refine leaves.of_same spares.token spares.wallet spares.deviceId ?_
  intro overtaken
  obtain ⟨noToken, noAdapter, noApp, still⟩ := leaves.released overtaken
  have released : after.session.adapter = connection.session.adapter := by
    rcases spares.adapter with same | ⟨adapter, _, held, _, _⟩
    · exact same
    · cases noAdapter.symm.trans held
  have token := spares.token
  have connecting := spares.connecting
  have wallet := spares.wallet
  have deviceId := spares.deviceId
  have appName := spares.appName
  cases before : connection.session
  cases later : after.session
  simp_all

theorem resumeDisconnect_overtaken {call : DisconnectCall} (overtaken : departure ≠ .leads)
    (leaves : departure.Leaves call.token former connection.session) :
    (connection.resumeDisconnect call).1.IsVacated ∧
      departure.Leaves call.token former (connection.resumeDisconnect call).1.session ∧
      (connection.resumeDisconnect call).1.published = connection.published := by
  have stale : connection.session.token ≠ some call.token := by
    simp [(leaves.released overtaken).1]
  have spares := resumeDisconnect_spares stale
  have left := spares.leaves leaves
  obtain ⟨noToken, noAdapter, noApp, still⟩ := left.released overtaken
  exact ⟨⟨noAdapter, noToken, noApp, still⟩, left, spares.published⟩

theorem operate_session (operation : Operation) :
    (connection.operate operation).1.session = connection.session := by
  simp only [operate]
  split
  · split
    · rw [operationAnswered_session, awaiting_session]
    · exact awaiting_session connection
  · rfl

theorem resume_follower_session {call : ConnectionCall} (follows : call.flight.isOwner = false) :
    (connection.resume call).1.session = connection.session := by
  rcases call with (_ | _) | (⟨_, _ | _⟩ | ⟨token, wallet, deviceId, adapter⟩) | _ | call
  case readiness.verifying =>
    simp only [resume, Prod.map_fst, id_eq, resumeReadiness, verifyAnswered_session,
      await_session]
  case operation => exact operationAnswered_session connection call
  all_goals cases follows

theorem handleDisconnect_leaves (error : Option WalletError)
    (leaves : departure.Leaves token former connection.session) :
    (departure.after connection (.lost error)).Leaves token former
      (connection.handleDisconnect error).session := by
  rw [handleDisconnect_session]
  by_cases ignored : (connection.cancelled || connection.session.connecting) = true
  · rw [if_pos ignored, Departure.after, if_neg (by simp [ignored])]
    exact leaves
  · rw [if_neg ignored]
    have still : connection.session.connecting = false := by simp_all
    cases departure with
    | leads =>
        obtain ⟨_, wallet, device⟩ := leaves
        rw [Departure.after, if_pos ⟨rfl, ignored⟩]
        simp only [Departure.Leaves, still, wallet, device]
    | lost =>
        rw [Departure.Leaves] at leaves
        rw [Departure.after, if_neg (by simp), Departure.Leaves, leaves]
    | dropped =>
        rw [Departure.Leaves] at leaves
        rw [Departure.after, if_neg (by simp), Departure.Leaves, leaves]

omit [AdapterBench Bench] in
theorem handleNotice_leaves (current : Token) (notice : Notice)
    (leaves : departure.Leaves token former connection.session) :
    departure.Leaves token former (connection.handleNotice current notice).session := by
  obtain ⟨appName, session⟩ := connection.handleNotice_session current notice
  refine leaves.of_same (by simp [session]) (by simp [session]) (by simp [session]) ?_
  intro overtaken
  have noToken := (leaves.released overtaken).1
  rw [handleNotice_stale (by simp [noToken])]

theorem react_leaves {event : ConnectionEvent} (goesOn : event.isEnd = false)
    (leaves : departure.Leaves token former connection.session) :
    (departure.after connection event).Leaves token former (connection.react event).session := by
  cases event with
  | reset => exact reset_session connection
  | teardown | cancel => cases goesOn
  | clearError =>
      rw [react, clearError_session]
      exact leaves
  | lost error => exact handleDisconnect_leaves error leaves
  | noticed current notice => exact handleNotice_leaves current notice leaves
  | pump =>
      simp only [react, pump]
      split
      · exact leaves
      · exact handleNotice_leaves _ _ leaves
  | closeInbox => exact leaves

end Connection

/-! Of a session that holds an adapter, the wallet and the device are known. -/

def Session.IsNamed (session : Session) : Prop :=
  session.adapter.isSome → session.wallet.isSome ∧ session.deviceId.isSome

omit [AdapterBench Bench] in
theorem Session.IsNamed.of_same {session next : Session} (named : session.IsNamed)
    (adapter : next.adapter = none ∨ next.adapter = session.adapter)
    (wallet : next.wallet = session.wallet) (device : next.deviceId = session.deviceId) :
    next.IsNamed := by
  intro holding
  rcases adapter with none | same
  · rw [none] at holding
    cases holding
  · rw [wallet, device]
    exact named (same ▸ holding)

theorem Session.isNamed_of_none {session : Session} (released : session.adapter = none) :
    session.IsNamed := by
  intro holding
  rw [released] at holding
  cases holding

theorem Connection.discard_isNamed {connection : Connection Bench} (adapter : AdapterId)
    (named : connection.session.IsNamed) : (connection.discard adapter).session.IsNamed := by
  rw [discard_session]
  split
  · exact Session.isNamed_of_none rfl
  · exact named

theorem Move.named [FreshBench Bench] {before after : Situation Bench} {shown : Option Unbacked}
    (move : Move FreshBench.evolves before shown after) (sound : before.Sound)
    (named : before.connection.session.IsNamed) : after.connection.session.IsNamed := by
  cases move with
  | serve | clearError | inbox _ _ | giveWay _ | hold _ _ | verify _ _ | operated _ | cancel =>
      exact named.of_same (.inr (by simp)) (by simp) (by simp)
  | operate _ _ =>
      rw [Connection.awaiting_session]
      exact named
  | takeOver wallet deviceId _ => exact Session.isNamed_of_none (by simp)
  | fail error _ => exact Session.isNamed_of_none (by simp)
  | reset | teardown => exact Session.isNamed_of_none (by simp)
  | locate deviceId _ => exact fun holding => ⟨(named holding).1, rfl⟩
  | install wallet current located _ =>
      have current := (Connection.interruption?_eq_none.mp current).2
      exact fun _ => ⟨(sound.led.search_leads current).2.1, located⟩
  | connect _ => exact named.of_same (.inr (by simp)) (by simp) (by simp)
  | discard _ => exact Connection.discard_isNamed _ named
  | leave _ => exact named
  | leaveNothing released =>
      rw [Connection.supersede_finishDisconnect_session]
      exact Session.isNamed_of_none released
  | @left connection _ _ call =>
      rw [Connection.disconnectAnswered_session]
      split
      next current =>
        exact Session.isNamed_of_none
          (Connection.discard_released (sound.led.disconnect_leads current))
      next => exact Connection.discard_isNamed _ named
  | lose error =>
      rw [Connection.handleDisconnect_session]
      split
      · exact named
      · exact Session.isNamed_of_none rfl
  | @notice connection _ _ token notice =>
      obtain ⟨appName, session⟩ := connection.handleNotice_session token notice
      exact named.of_same (.inr (by simp)) (by simp [session]) (by simp [session])

namespace Run

variable {evolves : Bench → Bench → Prop} {first before after run : Run Bench}
  {stage : DisconnectStage} {departure later : Departure} {call : DisconnectCall}

/-- A step that is taken while a disconnect waits, and what it makes of the session. Nobody begins
to connect, to make a device ready or to disconnect. -/
inductive Meanwhile (evolves : Bench → Bench → Prop) :
    Run Bench → Departure → Run Bench → Departure → Prop where
  | begin (run : Run Bench) (departure : Departure) (request : ConnectionRequest) :
      request.takesOver = false → Meanwhile evolves run departure (run.begin request) departure
  | resume (connection : Connection Bench) (call : ConnectionCall)
      (others : Multiset ConnectionCall) (isOver : Bool) (departure : Departure) :
      Meanwhile evolves ⟨connection, call ::ₘ others, isOver⟩ departure
        ⟨(connection.resume call).1, (connection.resume call).2.calls + others, isOver⟩ departure
  | react (run : Run Bench) (departure : Departure) (event : ConnectionEvent) :
      Meanwhile evolves run departure (run.react event) (departure.after run.connection event)
  | onBench (run : Run Bench) (departure : Departure) (change : Bench → Bench × List Signal) :
      evolves run.connection.bench (change run.connection.bench).1 →
      Meanwhile evolves run departure { run with connection := run.connection.onBench change }
        departure

theorem Meanwhile.step (meanwhile : Meanwhile evolves before departure after later) :
    Step evolves before after := by
  cases meanwhile with
  | begin _ _ request _ => exact .begin _ request
  | resume connection call others isOver _ => exact .resume connection call others isOver
  | react _ _ event => exact .react _ event
  | onBench _ _ change evolved => exact .onBench _ change evolved

/-- A disconnect that the first run has asked for. The run that it has come to holds all the other
calls. -/
inductive Leaving (evolves : Bench → Bench → Prop) (first : Run Bench) :
    Run Bench → DisconnectStage → Departure → Prop where
  | asked : Leaving evolves first first .begins .leads
  | waits {call : DisconnectCall} {milliseconds : Nat} :
      first.connection.disconnect.2 = .waiting call milliseconds →
      Leaving evolves first { first with connection := first.connection.disconnect.1 }
        (.waits call) .leads
  | meanwhile {before after : Run Bench} {call : DisconnectCall} {departure later : Departure} :
      Leaving evolves first before (.waits call) departure →
      Meanwhile evolves before departure after later →
      Leaving evolves first after (.waits call) later

omit [AdapterBench Bench] in
def joined (run : Run Bench) : DisconnectStage → Run Bench
  | .begins => run
  | .waits call => run.along (.disconnect call)

omit [AdapterBench Bench] in
theorem along_flights (run : Run Bench) (call : DisconnectCall) :
    (run.along (.disconnect call)).situation.flights =
      .disconnect call.token call.adapter ::ₘ run.situation.flights := by
  simp only [situation, along, Multiset.map_cons, ConnectionCall.flight]

theorem Leaving.steps (leaving : Leaving evolves first run stage departure) :
    Steps evolves first (run.joined stage) := by
  induction leaving with
  | asked => exact .refl
  | @waits call milliseconds waiting =>
      have begun : Step evolves first (first.begin .disconnect) := .begin first .disconnect
      have same : first.begin .disconnect = joined
          { first with connection := first.connection.disconnect.1 } (.waits call) := by
        simp only [begin, Connection.begin, Prod.map_fst, Prod.map_snd, id_eq, waiting,
          Progress.map, Progress.calls, Multiset.singleton_add, joined, along]
      exact .single (same ▸ begun)
  | meanwhile _ meanwhile ih => exact ih.tail (meanwhile.step.along _)

variable [FreshBench Bench]

theorem Reachable.follows {other : ConnectionCall}
    (reachable : (run.along (.disconnect call)).Reachable FreshBench.evolves)
    (goesOn : run.isOver = false) (current : run.connection.session.token = some call.token)
    (under_way : other ∈ run.calls) (same : other.token = call.token) :
    other.flight.isOwner = false := by
  have led := (reachable.sound_truthful goesOn).1.led
  rw [along_flights] at led
  obtain ⟨alone, _⟩ := led.leads rfl current
  by_contra owner
  have leads : other.flight ∈ owners (run.calls.map ConnectionCall.flight) call.token :=
    mem_owners.mpr ⟨Multiset.mem_map_of_mem _ under_way, by simpa using owner,
      other.flight_token.trans same⟩
  have none : owners (run.calls.map ConnectionCall.flight) call.token = 0 := alone
  rw [none] at leads
  cases leads

theorem Meanwhile.leaves {former : Session}
    (meanwhile : Meanwhile FreshBench.evolves before departure after later)
    (reachable : (before.along (.disconnect call)).Reachable FreshBench.evolves)
    (goesOn : before.isOver = false) (still : after.isOver = false)
    (leaves : departure.Leaves call.token former before.connection.session) :
    later.Leaves call.token former after.connection.session := by
  cases meanwhile with
  | begin _ _ request polite =>
      cases request with
      | operate operation =>
          have same : (before.begin (.operate operation)).connection.session =
              before.connection.session := Connection.operate_session operation
          exact leaves.of_same (by rw [same]) (by rw [same]) (by rw [same]) fun _ => same
      | connect _ _ | disconnect | makeReady _ _ _ _ => cases polite
  | resume connection other others isOver _ =>
      by_cases current : connection.session.token = some other.token
      · have follows : other.flight.isOwner = false := by
          cases departure with
          | leads =>
              have same := Option.some.inj (current.symm.trans leaves.1)
              exact reachable.follows goesOn leaves.1 (Multiset.mem_cons_self _ _) same
          | lost | dropped =>
              cases (leaves.released nofun).1.symm.trans current
        have same : (connection.resume other).1.session = connection.session :=
          Connection.resume_follower_session follows
        exact leaves.of_same (by rw [same]) (by rw [same]) (by rw [same]) fun _ => same
      · exact (Connection.resume_spares current).1.leaves leaves
  | react _ _ event =>
      have mild : event.isEnd = false := by simpa [Run.react, goesOn] using still
      exact Connection.react_leaves mild leaves
  | onBench _ _ change _ =>
      have same : (before.connection.onBench change).session = before.connection.session :=
        Connection.deliver_session _ _
      exact leaves.of_same (by rw [same]) (by rw [same]) (by rw [same]) fun _ => same

theorem Leaving.leaves (leaving : Leaving FreshBench.evolves first run (.waits call) departure)
    (reachable : first.Reachable FreshBench.evolves) (goesOn : run.isOver = false) :
    departure.Leaves call.token first.connection.session run.connection.session := by
  generalize waits : DisconnectStage.waits call = stage at leaving
  induction leaving with
  | asked => cases waits
  | @waits other milliseconds waiting =>
      cases waits
      exact first.connection.disconnect_departs.leaves waiting
  | @meanwhile before after other departure later earlier meanwhile ih =>
      cases waits
      have before := meanwhile.step.isOver_of goesOn
      exact meanwhile.leaves (reachable.imp fun _ steps => steps.trans earlier.steps) before
        goesOn (ih before rfl)

theorem Reachable.named (reachable : run.Reachable FreshBench.evolves)
    (goesOn : run.isOver = false) : run.connection.session.IsNamed := by
  have live := (reachable.sound_truthful goesOn).1.live
  obtain ⟨bench, steps⟩ := reachable
  refine (steps.keep (fun situation => situation.connection.cancelled = false →
    situation.Sound ∧ situation.connection.session.IsNamed) FreshBench.serves ?_ ?_ live).2
  · intro before shown after move kept later
    obtain ⟨sound, named⟩ := kept (move.live_of later)
    exact ⟨move.sound sound later, move.named sound named⟩
  · exact fun _ => ⟨start_sound bench, Session.isNamed_of_none rfl⟩

omit [FreshBench Bench] in
theorem Leaving.held (leaving : Leaving evolves first run (.waits call) departure) :
    first.connection.session.adapter = some call.adapter := by
  generalize waits : DisconnectStage.waits call = stage at leaving
  induction leaving with
  | asked => cases waits
  | waits waiting =>
      cases waits
      exact first.connection.disconnect_departs.held waiting
  | meanwhile _ _ ih => exact ih waits

/-- While the session goes on, whatever adapters answer and whatever happens in between, a
disconnect ends with nothing held and nobody to connect. It ends disconnected, with nothing
remembered, exactly when it was not overtaken: neither has the device been lost while nobody was
connecting, nor the session been reset and then shown a failure. A disconnect that was overtaken
publishes nothing; if the device was lost, the wallet and the device remain those of the session
that it was to end. -/
theorem disconnect_ends_disconnected_iff (reachable : first.Reachable FreshBench.evolves)
    (leaving : Leaving FreshBench.evolves first run stage departure) (goesOn : run.isOver = false)
    (finished : (run.connection.departStep stage).2 = .finished ()) :
    (run.connection.departStep stage).1.IsVacated ∧
    ((run.connection.departStep stage).1.IsDisconnected ↔
      departure = .leads ∨ departure = .dropped ∧ run.connection.state = .disconnected) ∧
    (departure ≠ .leads →
      (run.connection.departStep stage).1.published = run.connection.published) ∧
    (departure = .lost →
      (run.connection.departStep stage).1.session =
          { wallet := first.connection.session.wallet
            deviceId := first.connection.session.deviceId } ∧
        first.connection.session.wallet.isSome ∧ first.connection.session.deviceId.isSome) := by
  have reached : (run.joined stage).Reachable FreshBench.evolves :=
    reachable.imp fun _ steps => steps.trans leaving.steps
  have joined : (run.joined stage).isOver = false := by
    cases stage <;> exact goesOn
  have sound := (reached.sound_truthful joined).1
  cases stage with
  | begins =>
      cases leaving
      have ends := first.connection.disconnect_departs.isDisconnected sound.live finished
      exact ⟨ends.isVacated, iff_of_true ends (.inl rfl), absurd rfl, nofun⟩
  | waits call =>
      have leaves := leaving.leaves reachable goesOn
      cases departure with
      | leads =>
          have led := sound.led
          rw [Run.joined, along_flights] at led
          have ends := Connection.resumeDisconnect_isDisconnected leaves.1 sound.live
            (led.disconnect_leads leaves.1)
          exact ⟨ends.isVacated, iff_of_true ends (.inl rfl), absurd rfl, nofun⟩
      | lost =>
          have overtaken : Departure.lost ≠ .leads := nofun
          obtain ⟨vacated, left, quiet⟩ := Connection.resumeDisconnect_overtaken overtaken leaves
          have known := reachable.named (leaving.steps.isOver_of joined) (by simp [leaving.held])
          refine ⟨vacated, iff_of_false ?_ nofun, fun _ => quiet, fun _ => ⟨left, known⟩⟩
          intro ends
          have forgotten := left.symm.trans ends.session
          have noWallet : first.connection.session.wallet = none :=
            congrArg Session.wallet forgotten
          rw [noWallet] at known
          cases known.1
      | dropped =>
          have overtaken : Departure.dropped ≠ .leads := nofun
          obtain ⟨vacated, left, quiet⟩ := Connection.resumeDisconnect_overtaken overtaken leaves
          refine ⟨vacated, ⟨fun ends => .inr ⟨rfl, ?_⟩, ?_⟩, fun _ => quiet, nofun⟩
          · exact (congrArg Watched.value quiet).symm.trans ends.shown
          · rintro (leads | ⟨_, shown⟩)
            · cases leads
            · exact ⟨left, (congrArg Watched.value quiet).trans shown⟩

def slowToLeave : Run ScriptedBench :=
  (start { scripts := [{ disconnectDelay := 10 }] }).begin (.connect .ledger (.device "left"))

def lostOnLeaving : Run ScriptedBench :=
  ({ slowToLeave with connection := slowToLeave.connection.disconnect.1 } : Run ScriptedBench).react
    (.lost (some (.ofCode .deviceDisconnected)))

theorem slowToLeave_reachable : slowToLeave.Reachable FreshBench.evolves :=
  ⟨_, .tail .refl (.begin _ _)⟩

theorem lostOnLeaving_leaving :
    Leaving FreshBench.evolves slowToLeave lostOnLeaving (.waits ⟨2, 0⟩) .lost :=
  .meanwhile (.waits (rfl : _ = Progress.waiting _ 10)) (.react _ .leads _)

theorem disconnect_ends_disconnected_iff_lostOnLeaving :
    (lostOnLeaving.connection.departStep (.waits ⟨2, 0⟩)).1.IsVacated ∧
      (lostOnLeaving.connection.departStep (.waits ⟨2, 0⟩)).1.session =
        { wallet := some .ledger, deviceId := some "left" } := by
  obtain ⟨vacated, _, _, kept⟩ := disconnect_ends_disconnected_iff slowToLeave_reachable
    lostOnLeaving_leaving rfl rfl
  exact ⟨vacated, (kept rfl).1⟩

theorem disconnect_ends_in_failure :
    ¬∀ (first run : Run ScriptedBench) (stage : DisconnectStage) (departure : Departure),
      first.Reachable FreshBench.evolves →
        Leaving FreshBench.evolves first run stage departure → run.isOver = false →
          (run.connection.departStep stage).2 = .finished () →
            (run.connection.departStep stage).1.IsDisconnected := by
  intro always
  have ends := always slowToLeave lostOnLeaving _ _ slowToLeave_reachable lostOnLeaving_leaving rfl
    rfl
  cases ends.shown

end Run

end SignerLink
