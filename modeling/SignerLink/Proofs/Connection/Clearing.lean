import SignerLink.Proofs.Connection.Engaged
import SignerLink.Proofs.Connection.Settled
/-!
Leaving a failure. The session is connected afterwards if its adapter is live, and disconnected
otherwise. While an attempt runs, however, no disconnection is shown: a failure that has come up
meanwhile, on the adapter that is still being connected, stays.
-/

namespace SignerLink

theorem ConnectionState.alike_failed {state other : ConnectionState}
    (same : state.alike other) : state.isFailed = true ↔ other.isFailed = true := by
  cases state <;> cases other <;> simp_all [alike, isFailed]

def OperationCall.event (call : OperationCall) : StateEvent :=
  match call.answer with
  | .ok _ => .ready
  | .error error => .ofError (error.classify call.wallet)

namespace Connection

variable {Bench : Type} {connection : Connection Bench}

def checkEvent (wallet : Wallet) : AdapterAnswer → StateEvent
  | .ok true => .ready
  | .ok false => .failed .deviceNotReady (notReady wallet)
  | .error error => .ofError (error.classify wallet)

theorem verifyAnswered_eq (token : Token) (wallet : Wallet) (answer : AdapterAnswer) :
    (connection.verifyAnswered token wallet answer).1 =
      if (connection.interruption? token).isSome then connection
      else connection.publish (checkEvent wallet answer) := by
  cases interrupted : connection.interruption? token with
  | some _ => simp only [verifyAnswered, interrupted, Option.isSome_some, if_true]
  | none => rcases answer with _ | _ | _ <;> simp [verifyAnswered, interrupted, checkEvent]

theorem operationAnswered_eq (call : OperationCall) :
    (connection.operationAnswered call).1 =
      if (connection.interruption? call.token).isSome then connection
      else connection.publish call.event := by
  cases interrupted : connection.interruption? call.token with
  | some _ => simp only [operationAnswered, interrupted, Option.isSome_some, if_true]
  | none => cases answer : call.answer <;> simp [operationAnswered, interrupted, answer,
      OperationCall.event]

theorem publish_isFailed {event : StateEvent} (fails : event.target.isFailed = true) :
    (connection.publish event).state.isFailed = true := by
  have seen : event ≠ .disconnected := by
    rintro rfl
    cases fails
  exact (ConnectionState.alike_failed (connection.publish_alike (.inr seen))).mpr fails

theorem publish_publish (connection : Connection Bench) (event : StateEvent) :
    (connection.publish event).publish event = connection.publish event := by
  rcases connection.publish_cases event with ⟨_, _, same⟩ | ⟨_, same⟩ | changed
  · rw [same, same]
  · rw [same, same]
  · have shown : (connection.publish event).state = event.target := by rw [state, changed]; rfl
    have kept : (connection.publish event).state.alike event.target := by
      rw [shown]
      exact ConnectionState.alike_refl _
    rw [publish, transition]
    simp [kept]

structure IsFailedConnecting (connection : Connection Bench) : Prop where
  failed : connection.state.isFailed = true
  busy : connection.session.connecting = true

structure KeepsStatus (before after : Connection Bench) : Prop where
  published : after.published = before.published
  connecting : after.session.connecting = before.session.connecting

theorem KeepsStatus.refl (connection : Connection Bench) : connection.KeepsStatus connection :=
  ⟨rfl, rfl⟩

theorem KeepsStatus.symm {before after : Connection Bench} (status : before.KeepsStatus after) :
    after.KeepsStatus before :=
  ⟨status.published.symm, status.connecting.symm⟩

theorem KeepsStatus.failedConnecting {before after : Connection Bench}
    (status : before.KeepsStatus after) (failing : before.IsFailedConnecting) :
    after.IsFailedConnecting where
  failed := by
    rw [state, status.published]
    exact failing.failed
  busy := status.connecting.trans failing.busy

theorem IsFailedConnecting.not_still (failing : connection.IsFailedConnecting) :
    connection.session.connecting ≠ false := by
  simp [failing.busy]

theorem publish_failedConnecting {event : StateEvent}
    (failing : (connection.publish event).IsFailedConnecting) :
    event.target.isFailed = true ∨ connection.publish event = connection := by
  have busy : connection.session.connecting = true := by
    simpa using failing.busy
  rcases connection.publish_shows ConnectionState.alike_failed failing.failed with
    fails | ⟨_, hidden, _⟩
  · exact .inl fails
  · exact .inr (by rw [hidden, publish_hidden busy])

theorem publish_plain_keepsStatus {event : StateEvent} (plain : event.target.isFailed = false)
    (failing : (connection.publish event).IsFailedConnecting) :
    connection.KeepsStatus (connection.publish event) := by
  rcases publish_failedConnecting failing with fails | same
  · rw [plain] at fails
    cases fails
  · rw [same]
    exact .refl connection

/-- The session is connecting, under this token. -/
structure Attempts (connection : Connection Bench) (token : Token) : Prop where
  current : connection.interruption? token = none
  busy : connection.session.connecting = true

/-! What is shown only while the token is the session's. -/

section Shown

variable {heard next : Connection Bench} {token : Token} {event : StateEvent}

theorem Attempts.failedConnecting (attempts : connection.Attempts token)
    (fails : event.target.isFailed = true) (status : connection.KeepsStatus heard)
    (shown : next = if (connection.interruption? token).isSome then connection
      else heard.publish event) : next.IsFailedConnecting := by
  rw [attempts.current] at shown
  rw [shown]
  exact ⟨publish_isFailed fails, by simpa using status.connecting.trans attempts.busy⟩

theorem IsFailedConnecting.shown (failing : next.IsFailedConnecting)
    (status : connection.KeepsStatus heard)
    (shown : next = if (connection.interruption? token).isSome then connection
      else heard.publish event) :
    connection.KeepsStatus next ∨ connection.Attempts token ∧ event.target.isFailed = true := by
  cases current : connection.interruption? token with
  | some _ =>
      rw [current] at shown
      rw [shown]
      exact .inl (.refl connection)
  | none =>
      rw [current] at shown
      rw [shown] at failing ⊢
      have busy : heard.session.connecting = true := by simpa using failing.busy
      rcases publish_failedConnecting failing with fails | same
      · exact .inr ⟨⟨current, status.connecting.symm.trans busy⟩, fails⟩
      · exact .inl (by rwa [same])

end Shown

def noting (connection : Connection Bench) (notice : Notice) : Connection Bench :=
  if notice.kind = .appChanged then
    connection.setSession { connection.session with appName := notice.app }
  else connection

theorem noting_keepsStatus (notice : Notice) :
    connection.KeepsStatus (connection.noting notice) := by
  simp only [noting]
  split
  · exact ⟨rfl, rfl⟩
  · exact .refl connection

theorem handleNotice_eq (token : Token) (notice : Notice) :
    connection.handleNotice token notice =
      if (connection.interruption? token).isSome then connection
      else (connection.noting notice).publish (.ofNotice notice connection.session.wallet) := by
  have wallet : (connection.noting notice).session.wallet = connection.session.wallet := by
    simp only [noting]
    split <;> rfl
  rw [← wallet]
  cases current : connection.interruption? token with
  | none =>
      obtain ⟨live, same⟩ := interruption?_eq_none.mp current
      simp [handleNotice, live, same, noting]
  | some outcome =>
      have stale :
          (connection.cancelled || decide (connection.session.token ≠ some token)) = true := by
        by_contra heard
        have none : connection.interruption? token = none :=
          interruption?_eq_none.mpr (by simpa using heard)
        rw [none] at current
        cases current
      rw [handleNotice, if_pos stale]
      rfl

end Connection

variable {Bench : Type} [AdapterBench Bench]

namespace Situation

variable {evolves : Bench → Bench → Prop} {before after : Situation Bench}

inductive FailsWhileConnecting : Situation Bench → Situation Bench → Prop where
  | checked {connection : Connection Bench} {token flights isOver} (wallet : Wallet)
      (answer : AdapterAnswer) :
      connection.Attempts token →
      (Connection.checkEvent wallet answer).target.isFailed = true →
      FailsWhileConnecting ⟨connection, .verification token ::ₘ flights, isOver⟩
        ⟨(connection.verifyAnswered token wallet answer).1, flights, isOver⟩
  | operated {connection : Connection Bench} {flights isOver} (call : OperationCall) :
      connection.Attempts call.token → call.event.target.isFailed = true →
      FailsWhileConnecting ⟨connection, .operation call.token ::ₘ flights, isOver⟩
        ⟨(connection.operationAnswered call).1, flights, isOver⟩
  | noticed {connection : Connection Bench} {token flights isOver} (notice : Notice) :
      connection.Attempts token →
      (StateEvent.ofNotice notice connection.session.wallet).target.isFailed = true →
      FailsWhileConnecting ⟨connection, flights, isOver⟩
        ⟨connection.handleNotice token notice, flights, isOver⟩

def Moved (evolves : Bench → Bench → Prop) (before after : Situation Bench) : Prop :=
  ∃ shown, Move evolves before shown after

def MovedKeepingStatus (evolves : Bench → Bench → Prop) (before after : Situation Bench) : Prop :=
  Moved evolves before after ∧ before.connection.KeepsStatus after.connection

/-- One move follows another from the beginning of a session. -/
def Reachable (evolves : Bench → Bench → Prop) (situation : Situation Bench) : Prop :=
  ∃ bench, Relation.ReflTransGen (Moved evolves) (Run.start bench).situation situation

omit [AdapterBench Bench] in
theorem FailsWhileConnecting.failedConnecting (failure : FailsWhileConnecting before after) :
    after.connection.IsFailedConnecting := by
  cases failure with
  | checked wallet answer attempts fails =>
      exact attempts.failedConnecting fails (.refl _) (Connection.verifyAnswered_eq _ wallet answer)
  | operated call attempts fails =>
      exact attempts.failedConnecting fails (.refl _) (Connection.operationAnswered_eq call)
  | noticed notice attempts fails =>
      exact attempts.failedConnecting fails (Connection.noting_keepsStatus notice)
        (Connection.handleNotice_eq _ notice)

end Situation

namespace Connection

variable {connection : Connection Bench}

theorem discard_keepsStatus (adapter : AdapterId) :
    connection.KeepsStatus (connection.discard adapter) where
  published := connection.discard_published adapter
  connecting := by
    rw [discard_session]
    split <;> rfl

theorem disconnectAnswered_keepsStatus {call : DisconnectCall}
    (failing : (connection.disconnectAnswered call).IsFailedConnecting) :
    connection.KeepsStatus (connection.disconnectAnswered call) := by
  have stale : connection.session.token ≠ some call.token := by
    intro current
    exact failing.not_still (by rw [disconnectAnswered_session, if_pos current])
  rw [disconnectAnswered, finishDisconnect_stale _ (by rwa [discard_token])]
  exact discard_keepsStatus call.adapter

theorem beginAttempt_not_failedConnecting (wallet : Wallet) (deviceId : Option String) :
    ¬(connection.beginAttempt wallet deviceId).1.IsFailedConnecting := by
  intro failing
  have shown : (connection.beginAttempt wallet deviceId).1.state = .connecting :=
    publish_state _ (.inr nofun) rfl
  have failed := failing.failed
  rw [shown] at failed
  cases failed

theorem handleDisconnect_keepsStatus {error : Option WalletError}
    (failing : (connection.handleDisconnect error).IsFailedConnecting) :
    connection.KeepsStatus (connection.handleDisconnect error) := by
  have ignored : (connection.cancelled || connection.session.connecting) = true := by
    have busy := failing.busy
    rw [handleDisconnect_session] at busy
    by_contra attended
    rw [if_neg attended] at busy
    exact attended (by simp [show connection.session.connecting = true from busy])
  simp only [handleDisconnect, ignored, if_true]
  exact .refl connection

/-! Leaving a failure. -/

theorem clearError_eq (live : connection.cancelled = false) :
    connection.clearError =
      connection.publish (if connection.isAdapterConnected then .connected else .disconnected) := by
  simp only [clearError, live, Bool.false_eq_true, if_false]

theorem clearError_connected (live : connection.cancelled = false)
    (connected : connection.isAdapterConnected = true) :
    connection.clearError.state = .connected := by
  rw [clearError_eq live, if_pos connected]
  exact connection.publish_state (.inr nofun) rfl

theorem clearError_disconnected (live : connection.cancelled = false)
    (apart : connection.isAdapterConnected = false)
    (still : connection.session.connecting = false) :
    connection.clearError.state = .disconnected := by
  rw [clearError_eq live, if_neg (by simp [apart])]
  exact publish_disconnected still

theorem clearError_hidden (apart : connection.isAdapterConnected = false)
    (busy : connection.session.connecting = true) : connection.clearError = connection := by
  simp only [clearError, apart, Bool.false_eq_true, if_false, publish_hidden busy, ite_self]

theorem clearError_isFailed_iff (live : connection.cancelled = false) :
    connection.clearError.state.isFailed = true ↔
      connection.isAdapterConnected = false ∧ connection.IsFailedConnecting := by
  cases connected : connection.isAdapterConnected with
  | true =>
      rw [clearError_connected live connected]
      simp [ConnectionState.isFailed]
  | false =>
      cases busy : connection.session.connecting with
      | false =>
          rw [clearError_disconnected live connected busy]
          simp only [ConnectionState.isFailed, Bool.false_eq_true, true_and, false_iff]
          exact fun failing => failing.not_still busy
      | true =>
          rw [clearError_hidden connected busy]
          exact ⟨fun failed => ⟨rfl, failed, busy⟩, fun both => both.2.failed⟩

theorem clearError_clearError (connection : Connection Bench) :
    connection.clearError.clearError = connection.clearError := by
  cases live : connection.cancelled with
  | true => simp only [clearError, live, if_true]
  | false =>
      have later : connection.clearError.cancelled = false := by rwa [clearError_cancelled]
      have same : connection.clearError.isAdapterConnected = connection.isAdapterConnected := by
        simp only [isAdapterConnected, clearError_session, clearError_bench]
      rw [clearError_eq later, same, clearError_eq live, publish_publish]

theorem clearError_keepsStatus (failing : connection.clearError.IsFailedConnecting) :
    connection.KeepsStatus connection.clearError := by
  simp only [clearError] at failing ⊢
  split
  next => exact .refl connection
  next goesOn =>
    rw [if_neg goesOn] at failing
    exact publish_plain_keepsStatus (by split <;> rfl) failing

end Connection

theorem Move.failedConnecting {evolves : Bench → Bench → Prop} {before after : Situation Bench}
    {shown : Option Unbacked} (move : Move evolves before shown after)
    (failing : after.connection.IsFailedConnecting) :
    before.connection.KeepsStatus after.connection ∨ before.FailsWhileConnecting after := by
  cases move with
  | serve _ signals _ => exact .inl ⟨by simp, by simp⟩
  | inbox _ _ | locate _ _ | install _ _ _ _ | cancel | hold _ _ | giveWay _ | leave _ =>
      exact .inl ⟨rfl, rfl⟩
  | takeOver wallet deviceId _ =>
      exact absurd failing (Connection.beginAttempt_not_failedConnecting wallet deviceId)
  | connect _ => exact absurd (by simp) failing.not_still
  | fail error _ => exact absurd (by simp) failing.not_still
  | leaveNothing _ =>
      exact absurd (by rw [Connection.supersede_finishDisconnect_session]) failing.not_still
  | reset => exact absurd (by simp) failing.not_still
  | teardown => exact absurd (by simp) failing.not_still
  | @discard _ _ adapter _ _ _ => exact .inl (Connection.discard_keepsStatus adapter)
  | left call => exact .inl (Connection.disconnectAnswered_keepsStatus failing)
  | clearError => exact .inl (Connection.clearError_keepsStatus failing)
  | lose error => exact .inl (Connection.handleDisconnect_keepsStatus failing)
  | notice token notice =>
      exact (failing.shown (Connection.noting_keepsStatus notice)
        (Connection.handleNotice_eq token notice)).imp id fun ⟨attempts, fails⟩ =>
          .noticed notice attempts fails
  | verify wallet answer =>
      exact (failing.shown (.refl _) (Connection.verifyAnswered_eq _ wallet answer)).imp id
        fun ⟨attempts, fails⟩ => .checked wallet answer attempts fails
  | @operate connection _ _ _ _ _ =>
      refine .inl ?_
      simp only at failing ⊢
      split
      next => exact .refl connection
      next goesOn =>
        rw [if_neg goesOn] at failing
        exact Connection.publish_plain_keepsStatus rfl failing
  | operated call =>
      exact (failing.shown (.refl _) (Connection.operationAnswered_eq call)).imp id
        fun ⟨attempts, fails⟩ => .operated call attempts fails

namespace Situation

variable {evolves : Bench → Bench → Prop} {before after situation : Situation Bench}

theorem MovedKeepingStatus.failedConnecting
    (kept : Relation.ReflTransGen (MovedKeepingStatus evolves) before after)
    (failing : before.connection.IsFailedConnecting) : after.connection.IsFailedConnecting := by
  induction kept with
  | refl => exact failing
  | tail _ move ih => exact move.2.failedConnecting ih

/-- A failure has come up under an attempt, and since then neither was anything published nor did
the attempt end. -/
def FailedWhileConnecting (evolves : Bench → Bench → Prop) (situation : Situation Bench) : Prop :=
  ∃ before after, Reachable evolves before ∧ FailsWhileConnecting before after ∧
    Relation.ReflTransGen (MovedKeepingStatus evolves) after situation

theorem Reachable.failedConnecting_iff (reachable : Reachable evolves situation) :
    situation.connection.IsFailedConnecting ↔ situation.FailedWhileConnecting evolves := by
  constructor
  · intro failing
    obtain ⟨bench, moves⟩ := reachable
    induction moves with
    | refl => cases failing.busy
    | tail earlier moved ih =>
        obtain ⟨shown, move⟩ := moved
        rcases move.failedConnecting failing with status | failure
        · obtain ⟨first, second, reached, failure, rest⟩ :=
            ih (status.symm.failedConnecting failing)
          exact ⟨first, second, reached, failure, rest.tail ⟨⟨shown, move⟩, status⟩⟩
        · exact ⟨_, _, ⟨bench, earlier⟩, failure, .refl⟩
  · rintro ⟨first, second, _, failure, rest⟩
    exact MovedKeepingStatus.failedConnecting rest failure.failedConnecting

end Situation

theorem Run.Reachable.situation_reachable {evolves : Bench → Bench → Prop} {run : Run Bench}
    (serves : Serves evolves) (reachable : run.Reachable evolves) :
    Situation.Reachable evolves run.situation := by
  obtain ⟨bench, steps⟩ := reachable
  refine steps.keep (Situation.Reachable evolves) serves ?_ ⟨bench, .refl⟩
  rintro before shown after move ⟨first, moves⟩
  exact ⟨first, moves.tail ⟨shown, move⟩⟩

omit [AdapterBench Bench] in
theorem Led.leader_of_connecting {session : Session} {flights : Multiset Flight}
    (led : Led session flights) (busy : session.connecting = true) :
    ∃ flight ∈ flights, flight.isOwner = true ∧ session.token = some flight.token := by
  have leads {token : Token} {leader : Flight} (current : session.token = some token)
      (alone : owners flights token = {leader}) :
      ∃ flight ∈ flights, flight.isOwner = true ∧ session.token = some flight.token := by
    obtain ⟨flies, owner, same⟩ := mem_of_owners_eq alone
    exact ⟨leader, flies, owner, by rw [current, same]⟩
  cases led with
  | idle _ _ still | connected _ _ _ _ still =>
      rw [still] at busy
      cases busy
  | searching _ current _ _ alone => exact leads current alone
  | connecting _ _ current _ _ _ alone => exact leads current alone
  | leaving _ _ current _ alone => exact leads current alone

namespace Run

variable [FreshBench Bench] {run : Run Bench}

/-- Until the session is shut down, leaving a failure leads to a connected session if the adapter
is live, to a disconnected one if it is not and no attempt runs, and does nothing when it is
repeated. A failure stays exactly if the adapter is not live and the failure has come up under an
attempt that still runs. -/
theorem failure_outlasts_clearError_iff (reachable : run.Reachable FreshBench.evolves)
    (live : run.connection.cancelled = false) :
    ((run.react .clearError).connection.state.isFailed = true ↔
      run.connection.isAdapterConnected = false ∧
        run.situation.FailedWhileConnecting FreshBench.evolves) ∧
    ((run.react .clearError).connection.state.isFailed = true →
      run.react .clearError = run ∧
        ∃ flight ∈ run.situation.flights, flight.isOwner = true ∧
          run.connection.session.token = some flight.token) ∧
    (run.connection.isAdapterConnected = true →
      (run.react .clearError).connection.state = .connected) ∧
    (run.connection.isAdapterConnected = false → run.connection.session.connecting = false →
      (run.react .clearError).connection.state = .disconnected) ∧
    (run.react .clearError).react .clearError = run.react .clearError := by
  have failing_iff := (reachable.situation_reachable FreshBench.serves).failedConnecting_iff
  have failed_iff := Connection.clearError_isFailed_iff live
  refine ⟨?_, ?_, Connection.clearError_connected live,
    Connection.clearError_disconnected live, ?_⟩
  · rw [← failing_iff]
    exact failed_iff
  · intro failed
    obtain ⟨apart, failing⟩ := failed_iff.mp failed
    have same : run.react .clearError = run := by
      simp [react, Connection.react, Connection.clearError_hidden apart failing.busy,
        ConnectionEvent.isEnd]
    exact ⟨same, (reachable.sound live).led.leader_of_connecting failing.busy⟩
  · simp only [react, Connection.react, Connection.clearError_clearError, Bool.or_assoc,
      Bool.or_self]

def rejectedWhileOpening : Run SimulatedBench :=
  ((start { device := { latency := 5 } }).begin (.connect .ledger (.device "left"))).begin
    (.operate { answer := .error (.wallet (.ofCode .userRejected)) })

theorem rejectedWhileOpening_reachable : rejectedWhileOpening.Reachable FreshBench.evolves :=
  ⟨_, .tail (.tail .refl (.begin _ _)) (.begin _ _)⟩

theorem failure_outlasts_clearError_iff_rejected :
    rejectedWhileOpening.react .clearError = rejectedWhileOpening ∧
      rejectedWhileOpening.situation.FailedWhileConnecting FreshBench.evolves := by
  have failed : (rejectedWhileOpening.react .clearError).connection.state.isFailed = true := rfl
  obtain ⟨outlasts, stays, _⟩ :=
    failure_outlasts_clearError_iff rejectedWhileOpening_reachable rfl
  exact ⟨(stays failed).1, (outlasts.mp failed).2⟩

theorem failure_despite_clearError :
    ¬∀ run : Run SimulatedBench, run.Reachable FreshBench.evolves →
      run.connection.cancelled = false →
        (run.react .clearError).connection.state.isFailed = false := by
  intro leaves
  have left := leaves rejectedWhileOpening rejectedWhileOpening_reachable rfl
  have failed : (rejectedWhileOpening.react .clearError).connection.state.isFailed = true := rfl
  rw [failed] at left
  cases left

end Run

end SignerLink
