import SignerLink.Proofs.Connection.Settled
/-!
What backs a connected state. A session that shows one has an adapter, or is about to lose it in
a disconnect, unless the state came from an error or a notice that names an application: such a
state counts as connected, and it is shown even where there is no adapter.
-/

namespace SignerLink

def Unbacked.target : Unbacked → ConnectionState
  | .lost error => .ofError error
  | .noticed notice wallet => (StateEvent.ofNotice notice wallet).target

theorem ConnectionState.ofError_isConnected (error : WalletError) :
    (ofError error).isConnected = true ↔ error.code = .appClosed ∨ error.code = .wrongApp := by
  simp only [ofError]
  split <;> simp_all [isConnected]

theorem StateEvent.target_ofError (error : WalletError) :
    (ofError error).target = .ofError error := by
  simp only [ofError]
  cases ConnectionState.ofError error <;> rfl

theorem StateEvent.ofNotice_ne_disconnected {notice : Notice} (other : notice.kind ≠ .disconnected)
    (wallet : Option Wallet) : ofNotice notice wallet ≠ .disconnected := by
  simp only [ofNotice]
  split
  case h_4 => split <;> simp
  all_goals simp_all

namespace Situation

variable {Bench : Type}

def IsLeaving (situation : Situation Bench) : Prop :=
  ∃ token adapter, situation.connection.session.token = some token ∧
    .disconnect token adapter ∈ situation.flights

/-- A connected state with nothing behind it. -/
structure ConnectedWithoutAdapter (situation : Situation Bench) : Prop where
  connected : situation.connection.state.isConnected = true
  adapter : situation.connection.session.adapter = none
  stays : ¬situation.IsLeaving

variable {connection next : Connection Bench} {flights others : Multiset Flight}
  {isOver ended : Bool}

theorem IsLeaving.mono (leaving : IsLeaving ⟨connection, flights, isOver⟩)
    (token : next.session.token = connection.session.token)
    (kept : ∀ token adapter, connection.session.token = some token →
      .disconnect token adapter ∈ flights → .disconnect token adapter ∈ others) :
    IsLeaving ⟨next, others, ended⟩ := by
  obtain ⟨current, adapter, owned, member⟩ := leaving
  exact ⟨current, adapter, token.trans owned, kept current adapter owned member⟩

theorem ConnectedWithoutAdapter.of_same (bare : ConnectedWithoutAdapter ⟨next, others, ended⟩)
    (published : next.published = connection.published)
    (adapter : next.session.adapter = connection.session.adapter)
    (token : next.session.token = connection.session.token)
    (kept : ∀ token adapter, connection.session.token = some token →
      .disconnect token adapter ∈ flights → .disconnect token adapter ∈ others) :
    ConnectedWithoutAdapter ⟨connection, flights, isOver⟩ ∧
      next.published = connection.published := by
  refine ⟨⟨?_, adapter.symm.trans bare.adapter, fun leaving => ?_⟩, published⟩
  · have seen := bare.connected
    rw [Connection.state, published] at seen
    exact seen
  · exact bare.stays (leaving.mono token kept)

theorem ConnectedWithoutAdapter.of_publish {event : StateEvent}
    (bare : ConnectedWithoutAdapter ⟨connection.publish event, flights, isOver⟩)
    (plain : event.target.isConnected = false) :
    ConnectedWithoutAdapter ⟨connection, flights, isOver⟩ ∧
      (connection.publish event).published = connection.published := by
  rcases connection.publish_cases event with ⟨_, _, same⟩ | ⟨_, same⟩ | changed
  · rw [same] at bare ⊢
    exact ⟨bare, rfl⟩
  · rw [same] at bare ⊢
    exact ⟨bare, rfl⟩
  · have seen := bare.connected
    rw [Connection.state, changed] at seen
    exact absurd (plain.symm.trans seen) Bool.false_ne_true

theorem ConnectedWithoutAdapter.not_shown {event : StateEvent}
    (bare : ConnectedWithoutAdapter ⟨connection.publish event, flights, isOver⟩)
    (seen : connection.session.connecting = false ∨ event ≠ .disconnected)
    (plain : event.target.isConnected = false) : False := by
  have shown := connection.publish_isConnected seen
  rw [bare.connected, plain] at shown
  cases shown

end Situation

theorem Led.leaving_of_follower {session : Session} {flights : Multiset Flight} {flight : Flight}
    (led : Led session (flight ::ₘ flights)) (follows : flight.isOwner = false)
    (current : session.token = some flight.token) (noAdapter : session.adapter = none) :
    ∃ adapter, .disconnect flight.token adapter ∈ flights := by
  cases led with
  | idle noToken _ _ => rw [noToken] at current; cases current
  | searching token same _ _ _ alone =>
      cases same.symm.trans current
      rw [alone flight (Multiset.mem_cons_self _ _) rfl] at follows
      cases follows
  | connecting _ _ _ held _ _ _ _ => rw [noAdapter] at held; cases held
  | connected _ _ _ held _ _ _ _ _ => rw [noAdapter] at held; cases held
  | leaving token adapter same _ owner =>
      cases same.symm.trans current
      rcases Multiset.mem_cons.mp (mem_of_owners_eq owner).1 with same | member
      · rw [← same] at follows
        cases follows
      · exact ⟨adapter, member⟩

variable {Bench : Type} [AdapterBench Bench]

section Discarding

variable {connection : Connection Bench} {flights : Multiset Flight} {isOver : Bool}
  {flight : Flight} {adapter : AdapterId}

theorem Situation.ConnectedWithoutAdapter.of_discard
    (led : Led connection.session (flight ::ₘ flights)) (mentioned : flight.adapter? = some adapter)
    (stale : connection.session.token ≠ some flight.token)
    (bare : Situation.ConnectedWithoutAdapter ⟨connection.discard adapter, flights, isOver⟩) :
    Situation.ConnectedWithoutAdapter ⟨connection, flight ::ₘ flights, isOver⟩ ∧
      (connection.discard adapter).published = connection.published := by
  by_cases held : connection.session.adapter = some adapter
  · obtain ⟨token, other, current, alone⟩ := led.leaving_of_discard mentioned stale held
    exact absurd ⟨token, other, (connection.discard_token adapter).trans current,
      (mem_of_owners_eq alone).1⟩ bare.stays
  · refine bare.of_same (by simp) ?_ (connection.discard_token adapter) ?_
    · rw [Connection.discard_session, if_neg held]
    · exact fun _ _ current member => Flight.mem_of_stale stale member current

end Discarding

omit [AdapterBench Bench] in
theorem Situation.ConnectedWithoutAdapter.not_verdict {connection : Connection Bench}
    {flights : Multiset Flight} {isOver : Bool} {flight : Flight} {event : StateEvent}
    (led : Led connection.session (flight ::ₘ flights)) (follows : flight.isOwner = false)
    (current : connection.session.token = some flight.token)
    (bare : Situation.ConnectedWithoutAdapter ⟨connection.publish event, flights, isOver⟩) :
    False := by
  have noAdapter : connection.session.adapter = none := by
    have none := bare.adapter
    rwa [Connection.publish_session] at none
  obtain ⟨adapter, member⟩ := led.leaving_of_follower follows current noAdapter
  exact bare.stays ⟨_, adapter, by rwa [Connection.publish_session], member⟩

namespace Connection

variable {connection : Connection Bench} {flights : Multiset Flight} {isOver : Bool}

theorem clearError_connectedWithoutAdapter
    (bare : Situation.ConnectedWithoutAdapter ⟨connection.clearError, flights, isOver⟩) :
    Situation.ConnectedWithoutAdapter ⟨connection, flights, isOver⟩ ∧
      connection.clearError.published = connection.published := by
  have noAdapter : connection.session.adapter = none :=
    (congrArg Session.adapter connection.clearError_session).symm.trans bare.adapter
  simp only [clearError, isAdapterConnected, noAdapter, Option.any_none, Bool.false_eq_true,
    if_false] at bare ⊢
  split at bare
  next ended =>
    rw [if_pos ended]
    exact ⟨bare, rfl⟩
  next goes =>
    rw [if_neg goes]
    exact bare.of_publish rfl

theorem handleDisconnect_connectedWithoutAdapter {error : Option WalletError}
    (silent : connection.lossShown? error = none)
    (bare : Situation.ConnectedWithoutAdapter
      ⟨connection.handleDisconnect error, flights, isOver⟩) :
    Situation.ConnectedWithoutAdapter ⟨connection, flights, isOver⟩ ∧
      (connection.handleDisconnect error).published = connection.published := by
  simp only [handleDisconnect, lossShown?] at bare silent ⊢
  split at bare
  next ignored =>
    rw [if_pos ignored]
    exact ⟨bare, rfl⟩
  next attended =>
    rw [if_neg attended] at silent
    cases error with
    | none => exact absurd rfl (bare.not_shown (.inl (by simp_all)))
    | some error => cases silent

omit [AdapterBench Bench] in
theorem handleNotice_connectedWithoutAdapter {token : Token} {notice : Notice}
    (silent : connection.noticeShown? token notice = none)
    (bare : Situation.ConnectedWithoutAdapter
      ⟨connection.handleNotice token notice, flights, isOver⟩) :
    Situation.ConnectedWithoutAdapter ⟨connection, flights, isOver⟩ ∧
      (connection.handleNotice token notice).published = connection.published := by
  obtain ⟨appName, session⟩ := connection.handleNotice_session token notice
  have noAdapter : connection.session.adapter = none :=
    (congrArg Session.adapter session).symm.trans bare.adapter
  simp only [handleNotice, noticeShown?, noAdapter] at bare silent ⊢
  split at bare
  next dropped =>
    rw [if_pos dropped]
    exact ⟨bare, rfl⟩
  next heard =>
    have gone : notice.kind = .disconnected := by
      by_contra other
      simp_all
    have event : StateEvent.ofNotice notice connection.session.wallet = .disconnected := by
      simp [StateEvent.ofNotice, gone]
    rw [if_neg heard]
    simp only [gone, reduceCtorEq, if_false, event] at bare ⊢
    exact bare.of_publish rfl

theorem disconnectAnswered_connectedWithoutAdapter {call : DisconnectCall}
    (live : connection.cancelled = false)
    (led : Led connection.session (.disconnect call.token call.adapter ::ₘ flights))
    (bare : Situation.ConnectedWithoutAdapter
      ⟨connection.disconnectAnswered call, flights, isOver⟩) :
    Situation.ConnectedWithoutAdapter
        ⟨connection, .disconnect call.token call.adapter ::ₘ flights, isOver⟩ ∧
      (connection.disconnectAnswered call).published = connection.published := by
  have sameToken := connection.discard_token call.adapter
  by_cases current : connection.session.token = some call.token
  · rw [disconnectAnswered, finishDisconnect_current _ (sameToken.trans current)
      ((connection.discard_cancelled _).trans live)] at bare
    exact absurd rfl (bare.not_shown (.inl rfl))
  · rw [disconnectAnswered, finishDisconnect_stale _ (sameToken ▸ current)] at bare ⊢
    exact bare.of_discard led rfl current

end Connection

theorem Move.connectedWithoutAdapter {evolves : Bench → Bench → Prop}
    {before after : Situation Bench} {shown : Option Unbacked}
    (move : Move evolves before shown after) (silent : shown = none)
    (live : before.connection.cancelled = false)
    (led : Led before.connection.session before.flights) (goesOn : after.isOver = false)
    (bare : after.ConnectedWithoutAdapter) :
    before.ConnectedWithoutAdapter ∧ after.connection.published = before.connection.published := by
  have backed {adapter : AdapterId} (held : after.connection.session.adapter = some adapter) :
      before.ConnectedWithoutAdapter ∧
        after.connection.published = before.connection.published := by
    rw [bare.adapter] at held
    cases held
  cases move with
  | serve _ signals _ =>
      exact bare.of_same (by simp) (by simp) (by simp) fun _ _ _ member => member
  | inbox _ _ | locate _ _ => exact bare.of_same rfl rfl rfl fun _ _ _ member => member
  | teardown | cancel => cases goesOn
  | takeOver wallet deviceId _ => exact absurd rfl (bare.not_shown (.inr nofun))
  | giveWay _ =>
      exact bare.of_same rfl rfl rfl fun _ _ _ member => Flight.mem_of_silent rfl member rfl
  | install _ _ _ _ => exact backed rfl
  | connect current =>
      have held := (led.connect_leads (Connection.interruption?_eq_none.mp current).2).1
      exact backed (by rwa [Connection.publish_session])
  | fail error _ => cases silent
  | discard interrupted =>
      exact bare.of_discard led rfl (Connection.stale_of_interruption? live interrupted)
  | leave held => exact backed held
  | @leaveNothing connection _ _ held =>
      rw [Connection.finishDisconnect_current connection.supersede rfl live] at bare
      exact absurd rfl (bare.not_shown (.inl rfl))
  | left call => exact Connection.disconnectAnswered_connectedWithoutAdapter live led bare
  | reset => exact absurd rfl (bare.not_shown (.inl rfl))
  | clearError => exact Connection.clearError_connectedWithoutAdapter bare
  | lose error => exact Connection.handleDisconnect_connectedWithoutAdapter silent bare
  | notice token notice => exact Connection.handleNotice_connectedWithoutAdapter silent bare
  | hold holding _ =>
      obtain ⟨adapter, held⟩ := Option.isSome_iff_exists.mp holding
      exact backed held
  | @verify connection token _ _ wallet answer =>
      rcases connection.verifyAnswered_cases token wallet answer with
        ⟨_, same⟩ | ⟨current, event, _, seen⟩
      · rw [same] at bare ⊢
        exact bare.of_same rfl rfl rfl fun _ _ _ member => Flight.mem_of_silent rfl member rfl
      · rw [seen] at bare
        exact (bare.not_verdict led rfl (Connection.interruption?_eq_none.mp current).2).elim
  | operate holding _ =>
      obtain ⟨adapter, held⟩ := Option.isSome_iff_exists.mp holding
      exact backed (by rwa [Connection.awaiting_session])
  | @operated connection _ _ call =>
      rcases connection.operationAnswered_cases call with
        ⟨_, same⟩ | ⟨current, event, _, seen⟩
      · rw [same] at bare ⊢
        refine bare.of_same rfl rfl rfl ?_
        intro token adapter _ member
        simpa using member
      · rw [seen] at bare
        exact (bare.not_verdict led rfl (Connection.interruption?_eq_none.mp current).2).elim

/-! What is shown without an adapter. -/

namespace Connection

variable {connection : Connection Bench} {shown : Unbacked}

omit [AdapterBench Bench] in
theorem publish_ofError_isConnected (connection : Connection Bench) (error : WalletError) :
    (connection.publish (.ofError error)).state.isConnected =
      (Unbacked.lost error).target.isConnected := by
  have verdict := StateEvent.ofError_isVerdict error
  rw [connection.publish_isConnected (.inr ?_), StateEvent.target_ofError, Unbacked.target]
  intro hidden
  rw [hidden] at verdict
  cases verdict

theorem handleDisconnect_shows {error : Option WalletError}
    (shows : connection.lossShown? error = some shown) :
    (connection.handleDisconnect error).state.isConnected = shown.target.isConnected ∧
      (connection.handleDisconnect error).session.adapter = none := by
  simp only [lossShown?, handleDisconnect] at shows ⊢
  split at shows
  next => cases shows
  next attended =>
    rw [if_neg attended]
    cases error with
    | none => cases shows
    | some error =>
        cases shows
        exact ⟨publish_ofError_isConnected _ error, by simp⟩

omit [AdapterBench Bench] in
theorem handleNotice_shows {token : Token} {notice : Notice}
    (shows : connection.noticeShown? token notice = some shown) :
    (connection.handleNotice token notice).state.isConnected = shown.target.isConnected ∧
      (connection.handleNotice token notice).session.adapter = none := by
  simp only [noticeShown?, handleNotice] at shows ⊢
  split at shows
  next => cases shows
  next heard =>
    cases shows
    simp only [Bool.or_eq_true, decide_eq_true_eq, not_or] at heard
    obtain ⟨⟨⟨goes, current⟩, noAdapter⟩, other⟩ := heard
    rw [if_neg (by simp_all), publish_isConnected _
      (.inr (StateEvent.ofNotice_ne_disconnected other _))]
    split <;> exact ⟨rfl, by simpa using noAdapter⟩

end Connection

theorem Move.shows {evolves : Bench → Bench → Prop} {before after : Situation Bench}
    {label : Option Unbacked} (move : Move evolves before label after) {shown : Unbacked}
    (shows : label = some shown) :
    after.connection.state.isConnected = shown.target.isConnected ∧
      after.connection.session.adapter = none := by
  cases move with
  | fail error _ =>
      cases shows
      exact ⟨Connection.publish_ofError_isConnected _ error, by rw [Connection.failAttempt_session]⟩
  | lose error => exact Connection.handleDisconnect_shows shows
  | notice token notice => exact Connection.handleNotice_shows shows
  | _ => cases shows

theorem Moves.shows {evolves : Bench → Bench → Prop} {before after : Situation Bench}
    {shown : Unbacked} (moves : Moves evolves before (some shown) after) :
    after.connection.state.isConnected = shown.target.isConnected ∧
      after.connection.session.adapter = none := by
  generalize labelled : some shown = label at moves
  induction moves with
  | done => cases labelled
  | last move => exact move.shows labelled.symm
  | next _ _ ih => exact ih labelled

variable [FreshBench Bench]

theorem Moves.connectedWithoutAdapter {before after : Situation Bench} {shown : Option Unbacked}
    (moves : Moves FreshBench.evolves before shown after) (sound : before.Sound)
    (goesOn : after.isOver = false) (bare : after.ConnectedWithoutAdapter) :
    (∃ unbacked, shown = some unbacked ∧ unbacked.target.isConnected) ∨
      shown = none ∧ before.ConnectedWithoutAdapter ∧
        after.connection.published = before.connection.published := by
  induction moves with
  | done => exact .inr ⟨rfl, bare, rfl⟩
  | last move =>
      have shows := (move.shows rfl).1
      exact .inl ⟨_, rfl, shows.symm.trans bare.connected⟩
  | next move rest ih =>
      have middle := (rest.isOver_of goesOn).1
      have live := (move.isOver_of middle).2.trans sound.live
      rcases ih (move.sound sound live) goesOn bare with shows | ⟨silent, between, same⟩
      · exact .inl shows
      · obtain ⟨start, first⟩ :=
          move.connectedWithoutAdapter rfl sound.live sound.led middle between
        exact .inr ⟨silent, start, same.trans first⟩

namespace Connection

/-- What was last shown without an adapter, until something else is shown or an adapter comes. -/
def carry (before after : Connection Bench) (shown label : Option Unbacked) : Option Unbacked :=
  match label with
  | some unbacked => some unbacked
  | none =>
      if after.published = before.published ∧ after.session.adapter = none then shown else none

end Connection

namespace Run

inductive Traced (evolves : Bench → Bench → Prop) : Run Bench → Option Unbacked → Prop where
  | start (bench : Bench) : Traced evolves (start bench) none
  | step {before after : Run Bench} {shown label : Option Unbacked} :
      Traced evolves before shown → Shows evolves before label after →
      Traced evolves after (before.connection.carry after.connection shown label)

section Traced

variable {evolves : Bench → Bench → Prop} {before after run : Run Bench}

omit [FreshBench Bench] in
theorem Shows.step {label : Option Unbacked} (shows : Shows evolves before label after) :
    Step evolves before after := by
  cases shows with
  | begin _ request => exact .begin before request
  | resume connection call others isOver => exact .resume connection call others isOver
  | react _ event => exact .react before event
  | onBench _ change evolved => exact .onBench before change evolved

omit [FreshBench Bench] in
theorem Traced.reachable {shown : Option Unbacked} (traced : Traced evolves run shown) :
    run.Reachable evolves := by
  induction traced with
  | start bench => exact ⟨bench, .refl⟩
  | step _ shows ih =>
      obtain ⟨bench, steps⟩ := ih
      exact ⟨bench, steps.tail shows.step⟩

omit [FreshBench Bench] in
theorem Reachable.traced (reachable : run.Reachable evolves) :
    ∃ shown, Traced evolves run shown := by
  obtain ⟨bench, steps⟩ := reachable
  induction steps with
  | refl => exact ⟨none, .start bench⟩
  | tail _ step ih =>
      obtain ⟨shown, traced⟩ := ih
      obtain ⟨label, shows⟩ := step.shows
      exact ⟨_, .step traced shows⟩

/-- A connected state without an adapter is the one that was last shown without one. -/
structure Accounted (run : Run Bench) (shown : Option Unbacked) : Prop where
  shows : ∀ unbacked, shown = some unbacked → unbacked.target.isConnected = true →
    run.connection.state.isConnected = true ∧ run.connection.session.adapter = none
  only : run.situation.ConnectedWithoutAdapter →
    ∃ unbacked, shown = some unbacked ∧ unbacked.target.isConnected

theorem Accounted.carry {shown label : Option Unbacked} (accounted : before.Accounted shown)
    (moves : Moves FreshBench.evolves before.situation label after.situation)
    (sound : before.situation.Sound) (goesOn : after.isOver = false) :
    after.Accounted (before.connection.carry after.connection shown label) where
  shows unbacked last connected := by
    cases label with
    | some unbacked =>
        cases last
        have seen := moves.shows
        exact ⟨seen.1.trans connected, seen.2⟩
    | none =>
        simp only [Connection.carry] at last
        split at last
        next same =>
          have seen := (accounted.shows unbacked last connected).1
          rw [Connection.state, ← same.1] at seen
          exact ⟨seen, same.2⟩
        next => cases last
  only bare := by
    rcases moves.connectedWithoutAdapter sound goesOn bare with
      ⟨unbacked, rfl, connected⟩ | ⟨rfl, earlier, same⟩
    · exact ⟨unbacked, rfl, connected⟩
    · have kept : before.connection.carry after.connection shown none = shown :=
        if_pos ⟨same, bare.adapter⟩
      rw [kept]
      exact accounted.only earlier

theorem Traced.accounted {shown : Option Unbacked}
    (traced : Traced FreshBench.evolves run shown) (goesOn : run.isOver = false) :
    run.Accounted shown := by
  induction traced with
  | start bench =>
      constructor
      · intro unbacked shown
        cases shown
      · intro bare
        have connected : ConnectionState.disconnected.isConnected = true := bare.connected
        cases connected
  | step earlier shows ih =>
      have moves := shows.moves FreshBench.serves
      have live := (moves.isOver_of goesOn).1
      exact (ih live).carry moves (earlier.reachable.sound_truthful live).1 goesOn

/-- While the session goes on and no disconnect is under way, a connected state without an adapter
is what was last shown in the absence of one: an error that names an application, over which an
attempt or the device was lost, or a notice that came before the adapter. -/
theorem connected_without_adapter_iff {shown : Option Unbacked}
    (traced : Traced FreshBench.evolves run shown) (goesOn : run.isOver = false)
    (still : ∀ call, .disconnect call ∉ run.calls) :
    (run.connection.state.isConnected = true ∧ run.connection.session.adapter = none) ↔
      (∃ error, shown = some (.lost error) ∧ (error.code = .appClosed ∨ error.code = .wrongApp)) ∨
      (∃ notice wallet, shown = some (.noticed notice wallet) ∧
        (StateEvent.ofNotice notice wallet).target.isConnected = true) := by
  have accounted := traced.accounted goesOn
  have stays : ¬run.situation.IsLeaving := by
    rintro ⟨token, adapter, _, member⟩
    obtain ⟨call, waits, flight⟩ := Multiset.mem_map.mp member
    rcases call with (_ | _) | (⟨_, _ | _⟩ | _) | call | _
    case disconnect => exact still call waits
    all_goals cases flight
  constructor
  · rintro ⟨connected, none⟩
    obtain ⟨unbacked, rfl, target⟩ := accounted.only ⟨connected, none, stays⟩
    cases unbacked with
    | lost error => exact .inl ⟨error, rfl, (ConnectionState.ofError_isConnected error).mp target⟩
    | noticed notice wallet => exact .inr ⟨notice, wallet, rfl, target⟩
  · rintro (⟨error, rfl, app⟩ | ⟨notice, wallet, rfl, target⟩)
    · exact accounted.shows _ rfl ((ConnectionState.ofError_isConnected error).mpr app)
    · exact accounted.shows _ rfl target

def wrongAppOpen : Run SimulatedBench :=
  (start { device := { nextFailure := some (.wallet (.ofCode .wrongApp)) } }).begin
    (.connect .ledger (.device "left"))

theorem connected_without_adapter_iff_wrongAppOpen :
    wrongAppOpen.connection.state.isConnected = true ∧
      wrongAppOpen.connection.session.adapter = none := by
  have traced : Traced FreshBench.evolves wrongAppOpen
      (some (.lost (WalletError.ofCode .wrongApp))) :=
    .step (.start _) (.begin _ _)
  refine (connected_without_adapter_iff traced rfl ?_).mpr (.inl ⟨_, rfl, .inr rfl⟩)
  intro call waits
  have calls : wrongAppOpen.calls = 0 + 0 := rfl
  simp [calls] at waits

theorem connected_state_without_adapter :
    ¬∀ run : Run SimulatedBench, run.Reachable FreshBench.evolves → run.isOver = false →
      (∀ call, .disconnect call ∉ run.calls) → run.connection.state.isConnected = true →
      run.connection.session.adapter.isSome = true := by
  intro backed
  have reachable : wrongAppOpen.Reachable FreshBench.evolves := ⟨_, .tail .refl (.begin _ _)⟩
  have calls : wrongAppOpen.calls = 0 + 0 := rfl
  have held := backed wrongAppOpen reachable rfl (by simp [calls]) rfl
  have none : wrongAppOpen.connection.session.adapter = none := rfl
  rw [none] at held
  cases held

end Traced

end Run

end SignerLink
