import SignerLink.Proofs.Connection.Published
import SignerLink.Proofs.Connection.Tokens
/-!
While an attempt runs under the session's token, the session says that it connects, and a session
that connects does not show that it is disconnected.
-/

namespace SignerLink

namespace ConnectionState

theorem alike_disconnected {state other : ConnectionState} (same : state.alike other) :
    state = .disconnected ↔ other = .disconnected := by
  cases state <;> cases other <;> simp_all [alike]

end ConnectionState

theorem StateEvent.target_ne_disconnected {event : StateEvent} (other : event ≠ .disconnected) :
    event.target ≠ .disconnected := by
  cases event <;> simp_all [target]

namespace Connection

variable {Bench : Type} {connection : Connection Bench} {event : StateEvent}

theorem publish_ne_disconnected (other : event ≠ .disconnected) :
    (connection.publish event).state ≠ .disconnected := by
  intro shown
  rcases connection.publish_shows ConnectionState.alike_disconnected shown with
    asked | ⟨_, hidden, _⟩
  · exact StateEvent.target_ne_disconnected other asked
  · exact other hidden

theorem publish_disconnected (still : connection.session.connecting = false) :
    (connection.publish .disconnected).state = .disconnected :=
  connection.publish_state (.inl still) rfl

theorem publish_hidden (busy : connection.session.connecting = true) :
    connection.publish .disconnected = connection := by
  simp [publish, transition, busy]

end Connection

structure Situation.Engaged {Bench : Type} (situation : Situation Bench) : Prop where
  attempts : ∀ token adapter, situation.connection.session.token = some token →
    .attempt token adapter ∈ situation.flights → situation.connection.session.connecting = true
  shown : situation.connection.session.connecting = true →
    situation.connection.state ≠ .disconnected

namespace Situation.Engaged

variable {Bench : Type} {connection next : Connection Bench} {flights others : Multiset Flight}
  {isOver ended : Bool}

theorem of_same (engaged : Engaged ⟨connection, flights, isOver⟩)
    (sameState : next.state = connection.state)
    (sameToken : next.session.token = connection.session.token)
    (sameConnecting : next.session.connecting = connection.session.connecting)
    (older : ∀ token adapter, .attempt token adapter ∈ others →
      ∃ former, .attempt token former ∈ flights) : Engaged ⟨next, others, ended⟩ where
  attempts token adapter current member := by
    obtain ⟨former, flew⟩ := older token adapter member
    exact sameConnecting.trans (engaged.attempts token former (sameToken ▸ current) flew)
  shown busy seen :=
    engaged.shown (sameConnecting.symm.trans busy) (sameState.symm.trans seen)

theorem of_idle (noToken : next.session.token = none) (still : next.session.connecting = false) :
    Engaged ⟨next, others, ended⟩ where
  attempts token adapter current := by
    rw [noToken] at current
    cases current
  shown busy := by
    rw [still] at busy
    cases busy

theorem publish (engaged : Engaged ⟨connection, flights, isOver⟩) (event : StateEvent) :
    Engaged ⟨connection.publish event, flights, isOver⟩ where
  attempts token adapter current member := by
    rw [Connection.publish_session] at current ⊢
    exact engaged.attempts token adapter current member
  shown busy seen := by
    rw [Connection.publish_session] at busy
    by_cases asked : event = .disconnected
    · rw [asked, Connection.publish_hidden busy] at seen
      exact engaged.shown busy seen
    · exact Connection.publish_ne_disconnected asked seen

end Situation.Engaged

variable {Bench : Type} [AdapterBench Bench] {evolves : Bench → Bench → Prop}

theorem Connection.beginAttempt_state (connection : Connection Bench) (wallet : Wallet)
    (deviceId : Option String) :
    (connection.beginAttempt wallet deviceId).1.state ≠ .disconnected :=
  publish_ne_disconnected nofun

section Flights

variable {flights : Multiset Flight} {flight : Flight} {token : Token}
  {adapter : Option AdapterId}

omit [AdapterBench Bench] in
theorem Situation.Lone.attempt_unique {connection : Connection Bench} {isOver : Bool}
    (lone : Lone ⟨connection, .attempt token adapter ::ₘ flights, isOver⟩)
    (other : Option AdapterId) : .attempt token other ∉ flights := by
  intro member
  have twice : 1 < (owners (.attempt token adapter ::ₘ flights) token).card := by
    have leads : .attempt token other ∈ owners flights token := mem_owners.mpr ⟨member, rfl, rfl⟩
    rw [owners_attempt, if_pos rfl, Multiset.card_cons]
    exact Nat.succ_lt_succ (Multiset.card_pos_iff_exists_mem.mpr ⟨_, leads⟩)
  exact Nat.not_lt_of_le (lone token) twice

end Flights

/-! What the moves keep of it. -/

namespace Situation.Engaged

variable {connection : Connection Bench} {flights : Multiset Flight} {isOver ended : Bool}
  {flight : Flight} {token : Token} {adapter : Option AdapterId}

omit [AdapterBench Bench] in
theorem dropped (engaged : Engaged ⟨connection, flight ::ₘ flights, isOver⟩) :
    Engaged ⟨connection, flights, ended⟩ :=
  engaged.of_same rfl rfl rfl fun _ former member => ⟨former, Multiset.mem_cons_of_mem member⟩

omit [AdapterBench Bench] in
theorem along (engaged : Engaged ⟨connection, flights, isOver⟩) (follows : flight.isOwner = false) :
    Engaged ⟨connection, flight ::ₘ flights, ended⟩ := by
  refine engaged.of_same rfl rfl rfl fun _ former member => ⟨former, ?_⟩
  rcases Multiset.mem_cons.mp member with rfl | member
  · cases follows
  · exact member

theorem discard (engaged : Engaged ⟨connection, flights, isOver⟩) (adapter : AdapterId) :
    Engaged ⟨connection.discard adapter, flights, isOver⟩ := by
  refine engaged.of_same (by simp) (by simp) ?_ fun _ former member => ⟨former, member⟩
  rw [Connection.discard_session]
  split <;> rfl

omit [AdapterBench Bench] in
theorem install (engaged : Engaged ⟨connection, .attempt token none ::ₘ flights, isOver⟩)
    (bench : Bench) (adapter : AdapterId) :
    Engaged ⟨({ connection with bench := bench }).setSession
        { connection.session with adapter := some adapter },
      .attempt token (some adapter) ::ₘ flights, isOver⟩ := by
  refine engaged.of_same rfl rfl rfl fun current former member => ?_
  rcases Multiset.mem_cons.mp member with same | member
  · cases same
    exact ⟨none, Multiset.mem_cons_self _ _⟩
  · exact ⟨former, Multiset.mem_cons_of_mem member⟩

omit [AdapterBench Bench] in
theorem connect (lone : Lone ⟨connection, .attempt token adapter ::ₘ flights, isOver⟩)
    (current : connection.interruption? token = none) :
    Engaged ⟨(connection.setSession { connection.session with connecting := false }).publish
      .connected, flights, isOver⟩ := by
  refine publish ⟨?_, fun busy => absurd busy Bool.false_ne_true⟩ .connected
  intro other former same member
  cases same.symm.trans (Connection.interruption?_eq_none.mp current).2
  exact absurd member (lone.attempt_unique former)

omit [AdapterBench Bench] in
theorem leave (engaged : Engaged ⟨connection, flights, isOver⟩)
    (issued : Issued ⟨connection, flights, isOver⟩) (adapter : AdapterId) :
    Engaged ⟨connection.supersede,
      .disconnect (connection.lastToken + 1) adapter ::ₘ flights, isOver⟩ := by
  refine ⟨?_, engaged.shown⟩
  intro token former fresh member
  cases fresh
  simp only [Multiset.mem_cons, reduceCtorEq, false_or] at member
  exact absurd (issued.flights _ member) (Nat.not_succ_le_self _)

theorem left (engaged : Engaged ⟨connection, flights, isOver⟩) (call : DisconnectCall) :
    Engaged ⟨connection.disconnectAnswered call, flights, isOver⟩ := by
  by_cases current : connection.session.token = some call.token
  · have session := Connection.disconnectAnswered_session connection call
    rw [if_pos current] at session
    exact .of_idle (by rw [session]) (by rw [session])
  · have stale : (connection.discard call.adapter).session.token ≠ some call.token := by
      rwa [Connection.discard_token]
    rw [Connection.disconnectAnswered, Connection.finishDisconnect_stale _ stale]
    exact engaged.discard call.adapter

theorem clearError (engaged : Engaged ⟨connection, flights, isOver⟩) :
    Engaged ⟨connection.clearError, flights, isOver⟩ := by
  simp only [Connection.clearError]
  split
  · exact engaged
  · exact engaged.publish _

theorem lose (engaged : Engaged ⟨connection, flights, isOver⟩) (error : Option WalletError) :
    Engaged ⟨connection.handleDisconnect error, flights, isOver⟩ := by
  have session := connection.handleDisconnect_session error
  by_cases ignored : (connection.cancelled || connection.session.connecting) = true
  · simp only [Connection.handleDisconnect, ignored, if_true]
    exact engaged
  · have still : connection.session.connecting = false := by simp_all
    rw [if_neg ignored] at session
    exact .of_idle (by rw [session]) (by rw [session]; exact still)

omit [AdapterBench Bench] in
theorem notice (engaged : Engaged ⟨connection, flights, isOver⟩) (token : Token)
    (notice : Notice) : Engaged ⟨connection.handleNotice token notice, flights, isOver⟩ := by
  simp only [Connection.handleNotice]
  split
  next => exact engaged
  next =>
    refine publish ?_ _
    split
    · exact engaged.of_same rfl rfl rfl fun _ former member => ⟨former, member⟩
    · exact engaged

end Situation.Engaged

theorem Move.engaged {before after : Situation Bench} {shown : Option Unbacked}
    (move : Move evolves before shown after) (issued : before.Issued) (lone : before.Lone)
    (engaged : before.Engaged) : after.Engaged := by
  cases move with
  | serve | inbox _ _ =>
      exact engaged.of_same (by simp [Connection.state]) (by simp) (by simp)
        fun _ adapter member => ⟨adapter, member⟩
  | cancel | locate _ _ =>
      exact engaged.of_same rfl rfl rfl fun _ adapter member => ⟨adapter, member⟩
  | takeOver wallet deviceId _ =>
      exact ⟨fun _ _ _ _ => by simp, fun _ => Connection.beginAttempt_state _ wallet deviceId⟩
  | giveWay _ => exact engaged.dropped
  | install _ _ _ _ => exact engaged.install _ _
  | connect current => exact .connect lone current
  | fail error _ => exact .of_idle (by simp) (by simp)
  | discard _ => exact engaged.dropped.discard _
  | leave _ => exact engaged.leave issued _
  | leaveNothing _ =>
      exact .of_idle (by rw [Connection.supersede_finishDisconnect_session])
        (by rw [Connection.supersede_finishDisconnect_session])
  | left call => exact engaged.dropped.left call
  | reset | teardown => exact .of_idle (by simp) (by simp)
  | clearError => exact engaged.clearError
  | lose error => exact engaged.lose error
  | notice token notice => exact engaged.notice token notice
  | hold _ _ => exact engaged.along rfl
  | @verify connection token _ _ wallet answer =>
      rcases connection.verifyAnswered_cases token wallet answer with
        ⟨_, same⟩ | ⟨_, event, _, seen⟩
      · rw [same]
        exact engaged.dropped
      · rw [seen]
        exact engaged.dropped.publish event
  | operate _ _ =>
      split
      · exact engaged.along rfl
      · exact (engaged.along rfl).publish .awaitingConfirmation
  | @operated connection _ _ call =>
      rcases connection.operationAnswered_cases call with
        ⟨_, same⟩ | ⟨_, event, _, seen⟩
      · rw [same]
        exact engaged.dropped
      · rw [seen]
        exact engaged.dropped.publish event

namespace Run

variable {run : Run Bench}

theorem Reachable.engaged (serves : Serves evolves) (reachable : run.Reachable evolves) :
    run.situation.Engaged := by
  obtain ⟨bench, steps⟩ := reachable
  have kept := steps.keep (fun situation => situation.Issued ∧ situation.Lone ∧ situation.Engaged)
    serves (fun move ⟨issued, lone, engaged⟩ =>
      ⟨move.issued issued, move.lone issued lone, move.engaged issued lone engaged⟩)
    ⟨start_issued bench, start_lone bench, .of_idle rfl rfl⟩
  exact kept.2.2

end Run

end SignerLink
