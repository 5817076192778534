import SignerLink.Proofs.Connection.Run
/-!
What each operation of a connection does to its fields. Later modules cite these lemmas and do
not open the operations again.
-/

namespace SignerLink

namespace StateEvent

def isVerdict : StateEvent → Bool
  | .ready | .awaitingApp _ _ | .failed _ _ => true
  | .disconnected | .connecting | .connected | .awaitingConfirmation => false

theorem ofError_isVerdict (error : WalletError) : (ofError error).isVerdict = true := by
  simp only [ofError, ConnectionState.ofError]
  split <;> rfl

end StateEvent

namespace Connection

variable {Bench : Type}

/-! Assignments. -/

section Assignments

variable (connection : Connection Bench)

@[simp] theorem setSession_session (session : Session) :
    (connection.setSession session).session = session := rfl

@[simp] theorem setSession_bench (session : Session) :
    (connection.setSession session).bench = connection.bench := rfl

@[simp] theorem setSession_lastToken (session : Session) :
    (connection.setSession session).lastToken = connection.lastToken := rfl

@[simp] theorem setSession_cancelled (session : Session) :
    (connection.setSession session).cancelled = connection.cancelled := rfl

@[simp] theorem deliver_nil : connection.deliver [] = connection := by
  simp [deliver]

@[simp] theorem deliver_session (signals : List Signal) :
    (connection.deliver signals).session = connection.session := by
  simp only [deliver]; split <;> rfl

@[simp] theorem deliver_bench (signals : List Signal) :
    (connection.deliver signals).bench = connection.bench := by
  simp only [deliver]; split <;> rfl

@[simp] theorem deliver_published (signals : List Signal) :
    (connection.deliver signals).published = connection.published := by
  simp only [deliver]; split <;> rfl

@[simp] theorem deliver_lastToken (signals : List Signal) :
    (connection.deliver signals).lastToken = connection.lastToken := by
  simp only [deliver]; split <;> rfl

@[simp] theorem deliver_cancelled (signals : List Signal) :
    (connection.deliver signals).cancelled = connection.cancelled := by
  simp only [deliver]; split <;> rfl

@[simp] theorem publish_session (event : StateEvent) :
    (connection.publish event).session = connection.session := by
  simp only [publish]; split <;> rfl

@[simp] theorem publish_bench (event : StateEvent) :
    (connection.publish event).bench = connection.bench := by
  simp only [publish]; split <;> rfl

@[simp] theorem publish_lastToken (event : StateEvent) :
    (connection.publish event).lastToken = connection.lastToken := by
  simp only [publish]; split <;> rfl

@[simp] theorem publish_cancelled (event : StateEvent) :
    (connection.publish event).cancelled = connection.cancelled := by
  simp only [publish]; split <;> rfl

end Assignments

/-! Adapters let go of. -/

section Adapters

variable [AdapterBench Bench] (connection : Connection Bench) (adapter : AdapterId)

@[simp] theorem releaseAdapter_session :
    connection.releaseAdapter.session = { connection.session with adapter := none } := by
  simp only [releaseAdapter]
  split
  next empty => rw [← empty]
  next => rfl

@[simp] theorem releaseAdapter_published :
    connection.releaseAdapter.published = connection.published := by
  simp only [releaseAdapter]; split <;> rfl

@[simp] theorem releaseAdapter_lastToken :
    connection.releaseAdapter.lastToken = connection.lastToken := by
  simp only [releaseAdapter]; split <;> rfl

@[simp] theorem releaseAdapter_cancelled :
    connection.releaseAdapter.cancelled = connection.cancelled := by
  simp only [releaseAdapter]; split <;> rfl

theorem releaseAdapter_bench :
    connection.releaseAdapter.bench =
      connection.session.adapter.elim connection.bench
        (AdapterBench.destroy connection.bench) := by
  simp only [releaseAdapter]
  split
  next empty => simp [empty]
  next held => simp [held, destroy]

theorem discard_session :
    (connection.discard adapter).session =
      if connection.session.adapter = some adapter then
        { connection.session with adapter := none }
      else connection.session := by
  simp only [discard]; split <;> rfl

@[simp] theorem discard_bench :
    (connection.discard adapter).bench = AdapterBench.destroy connection.bench adapter := by
  simp only [discard]; split <;> rfl

@[simp] theorem discard_published :
    (connection.discard adapter).published = connection.published := by
  simp only [discard]; split <;> rfl

@[simp] theorem discard_lastToken :
    (connection.discard adapter).lastToken = connection.lastToken := by
  simp only [discard]; split <;> rfl

@[simp] theorem discard_cancelled :
    (connection.discard adapter).cancelled = connection.cancelled := by
  simp only [discard]; split <;> rfl

@[simp] theorem discard_token :
    (connection.discard adapter).session.token = connection.session.token := by
  rw [discard_session]; split <;> rfl

end Adapters

/-! Requests to adapters. -/

section Requests

variable [AdapterBench Bench] (connection : Connection Bench) (adapter : AdapterId)
  (request : AdapterRequest)

@[simp] theorem await_session :
    (connection.await adapter request).1.session = connection.session :=
  deliver_session _ _

@[simp] theorem await_published :
    (connection.await adapter request).1.published = connection.published :=
  deliver_published _ _

@[simp] theorem await_cancelled :
    (connection.await adapter request).1.cancelled = connection.cancelled :=
  deliver_cancelled _ _

end Requests

/-! Attempts. -/

section Attempts

variable [AdapterBench Bench] (connection : Connection Bench)

@[simp] theorem beginAttempt_session (wallet : Wallet) (deviceId : Option String) :
    (connection.beginAttempt wallet deviceId).1.session =
      { token := some (connection.lastToken + 1)
        connecting := true
        wallet := some wallet
        deviceId := deviceId } := by
  simp [beginAttempt, allocate]

@[simp] theorem beginAttempt_lastToken (wallet : Wallet) (deviceId : Option String) :
    (connection.beginAttempt wallet deviceId).1.lastToken = connection.lastToken + 1 := by
  simp [beginAttempt, allocate]

@[simp] theorem beginAttempt_cancelled (wallet : Wallet) (deviceId : Option String) :
    (connection.beginAttempt wallet deviceId).1.cancelled = connection.cancelled := by
  simp [beginAttempt, allocate]

theorem beginAttempt_bench (wallet : Wallet) (deviceId : Option String) :
    (connection.beginAttempt wallet deviceId).1.bench = connection.releaseAdapter.bench := by
  simp [beginAttempt, allocate, releaseAdapter_bench]

@[simp] theorem failAttempt_session (error : WalletError) :
    (connection.failAttempt error).1.session =
      { connection.session with adapter := none, token := none, connecting := false } := by
  simp [failAttempt]

@[simp] theorem failAttempt_lastToken (error : WalletError) :
    (connection.failAttempt error).1.lastToken = connection.lastToken := by
  simp [failAttempt]

@[simp] theorem failAttempt_cancelled (error : WalletError) :
    (connection.failAttempt error).1.cancelled = connection.cancelled := by
  simp [failAttempt]

@[simp] theorem failAttempt_bench (error : WalletError) :
    (connection.failAttempt error).1.bench = connection.releaseAdapter.bench := by
  simp [failAttempt]

end Attempts

/-! Letting go. -/

section Release

def supersede (connection : Connection Bench) : Connection Bench :=
  connection.allocate.1.setSession
    { connection.session with token := some (connection.lastToken + 1) }

variable (connection : Connection Bench)

@[simp] theorem supersede_session :
    connection.supersede.session =
      { connection.session with token := some (connection.lastToken + 1) } := rfl

@[simp] theorem supersede_lastToken :
    connection.supersede.lastToken = connection.lastToken + 1 := rfl

@[simp] theorem supersede_cancelled :
    connection.supersede.cancelled = connection.cancelled := rfl

@[simp] theorem supersede_bench : connection.supersede.bench = connection.bench := rfl

theorem finishDisconnect_session (token : Token) :
    (connection.finishDisconnect token).session =
      if connection.session.token = some token then { adapter := connection.session.adapter }
      else connection.session := by
  by_cases current : connection.session.token = some token
  · simp only [finishDisconnect, current, ne_eq, not_true, if_false, if_true]
    split <;> simp
  · simp [finishDisconnect, current]

theorem finishDisconnect_current {token : Token}
    (current : connection.session.token = some token) (live : connection.cancelled = false) :
    connection.finishDisconnect token =
      (connection.setSession { adapter := connection.session.adapter }).publish .disconnected := by
  have goesOn {session : Session} : (connection.setSession session).cancelled = false := live
  simp only [finishDisconnect, current, goesOn, ne_eq, not_true, Bool.false_eq_true, if_false]

theorem finishDisconnect_stale {token : Token} (stale : connection.session.token ≠ some token) :
    connection.finishDisconnect token = connection := by
  rw [finishDisconnect, if_pos stale]

theorem supersede_finishDisconnect_session :
    (connection.supersede.finishDisconnect (connection.lastToken + 1)).session =
      { adapter := connection.session.adapter } := by
  simp [finishDisconnect_session]

@[simp] theorem finishDisconnect_lastToken (token : Token) :
    (connection.finishDisconnect token).lastToken = connection.lastToken := by
  simp only [finishDisconnect]
  split
  · rfl
  · split <;> simp

@[simp] theorem finishDisconnect_cancelled (token : Token) :
    (connection.finishDisconnect token).cancelled = connection.cancelled := by
  simp only [finishDisconnect]
  split
  · rfl
  · split <;> simp

@[simp] theorem finishDisconnect_bench (token : Token) :
    (connection.finishDisconnect token).bench = connection.bench := by
  simp only [finishDisconnect]
  split
  · rfl
  · split <;> simp

@[simp] theorem cancel_session : connection.cancel.session = connection.session := rfl

@[simp] theorem cancel_lastToken : connection.cancel.lastToken = connection.lastToken := rfl

variable [AdapterBench Bench]

theorem disconnect_eq :
    connection.disconnect =
      match connection.session.adapter with
      | none =>
          (connection.supersede.finishDisconnect (connection.lastToken + 1), .finished ())
      | some adapter =>
          let call : DisconnectCall := ⟨connection.lastToken + 1, adapter⟩
          match connection.supersede.ask adapter .disconnect with
          | (later, .later milliseconds) => (later, .waiting call milliseconds)
          | (later, .now _) => (later.disconnectAnswered call, .finished ()) :=
  rfl

@[simp] theorem disconnectAnswered_lastToken (call : DisconnectCall) :
    (connection.disconnectAnswered call).lastToken = connection.lastToken := by
  simp [disconnectAnswered]

@[simp] theorem disconnectAnswered_cancelled (call : DisconnectCall) :
    (connection.disconnectAnswered call).cancelled = connection.cancelled := by
  simp [disconnectAnswered]

@[simp] theorem disconnectAnswered_bench (call : DisconnectCall) :
    (connection.disconnectAnswered call).bench =
      AdapterBench.destroy connection.bench call.adapter := by
  simp [disconnectAnswered]

theorem disconnectAnswered_session (call : DisconnectCall) :
    (connection.disconnectAnswered call).session =
      if connection.session.token = some call.token then
        { adapter := (connection.discard call.adapter).session.adapter }
      else (connection.discard call.adapter).session := by
  simp [disconnectAnswered, finishDisconnect_session]

@[simp] theorem reset_session : connection.reset.session = {} := by
  simp [reset]

@[simp] theorem reset_lastToken : connection.reset.lastToken = connection.lastToken := by
  simp [reset]

@[simp] theorem reset_cancelled : connection.reset.cancelled = connection.cancelled := by
  simp [reset]

@[simp] theorem reset_bench : connection.reset.bench = connection.releaseAdapter.bench := by
  simp [reset]

@[simp] theorem teardown_session :
    connection.teardown.session =
      { connection.session with adapter := none, token := none, connecting := false } := by
  simp [teardown]

@[simp] theorem teardown_lastToken :
    connection.teardown.lastToken = connection.lastToken := by
  simp [teardown]

@[simp] theorem teardown_cancelled :
    connection.teardown.cancelled = connection.cancelled := by
  simp [teardown]

@[simp] theorem teardown_bench :
    connection.teardown.bench = connection.releaseAdapter.bench := by
  simp [teardown]

@[simp] theorem clearError_session : connection.clearError.session = connection.session := by
  simp only [clearError]; split <;> simp

@[simp] theorem clearError_lastToken :
    connection.clearError.lastToken = connection.lastToken := by
  simp only [clearError]; split <;> simp

@[simp] theorem clearError_cancelled :
    connection.clearError.cancelled = connection.cancelled := by
  simp only [clearError]; split <;> simp

@[simp] theorem clearError_bench : connection.clearError.bench = connection.bench := by
  simp only [clearError]; split <;> simp

theorem handleDisconnect_session (error : Option WalletError) :
    (connection.handleDisconnect error).session =
      if connection.cancelled || connection.session.connecting then connection.session
      else { connection.session with adapter := none, token := none, appName := none } := by
  simp only [handleDisconnect]; split <;> simp

@[simp] theorem handleDisconnect_lastToken (error : Option WalletError) :
    (connection.handleDisconnect error).lastToken = connection.lastToken := by
  simp only [handleDisconnect]; split <;> simp

@[simp] theorem handleDisconnect_cancelled (error : Option WalletError) :
    (connection.handleDisconnect error).cancelled = connection.cancelled := by
  simp only [handleDisconnect]; split <;> simp

theorem handleDisconnect_bench (error : Option WalletError) :
    (connection.handleDisconnect error).bench =
      if connection.cancelled || connection.session.connecting then connection.bench
      else connection.releaseAdapter.bench := by
  simp only [handleDisconnect]; split <;> simp

end Release

/-! Notices and answers. -/

section Answers

variable (connection : Connection Bench)

theorem handleNotice_session (token : Token) (notice : Notice) :
    ∃ appName, (connection.handleNotice token notice).session =
      { connection.session with appName := appName } := by
  simp only [handleNotice]
  split
  · exact ⟨connection.session.appName, rfl⟩
  · split
    · exact ⟨notice.app, by simp⟩
    · exact ⟨connection.session.appName, by simp⟩

@[simp] theorem handleNotice_token (token : Token) (notice : Notice) :
    (connection.handleNotice token notice).session.token = connection.session.token := by
  obtain ⟨appName, session⟩ := connection.handleNotice_session token notice
  rw [session]

@[simp] theorem handleNotice_adapter (token : Token) (notice : Notice) :
    (connection.handleNotice token notice).session.adapter = connection.session.adapter := by
  obtain ⟨appName, session⟩ := connection.handleNotice_session token notice
  rw [session]

@[simp] theorem handleNotice_lastToken (token : Token) (notice : Notice) :
    (connection.handleNotice token notice).lastToken = connection.lastToken := by
  simp only [handleNotice]
  split
  · rfl
  · split <;> simp

@[simp] theorem handleNotice_cancelled (token : Token) (notice : Notice) :
    (connection.handleNotice token notice).cancelled = connection.cancelled := by
  simp only [handleNotice]
  split
  · rfl
  · split <;> simp

@[simp] theorem handleNotice_bench (token : Token) (notice : Notice) :
    (connection.handleNotice token notice).bench = connection.bench := by
  simp only [handleNotice]
  split
  · rfl
  · split <;> simp

/-! While an operation runs. -/

theorem awaiting_session :
    (if connection.cancelled then connection
      else connection.publish .awaitingConfirmation).session = connection.session := by
  split <;> simp

theorem awaiting_bench :
    (if connection.cancelled then connection
      else connection.publish .awaitingConfirmation).bench = connection.bench := by
  split <;> simp

theorem verifyAnswered_cases (token : Token) (wallet : Wallet) (answer : AdapterAnswer) :
    (connection.interruption? token).isSome ∧
        (connection.verifyAnswered token wallet answer).1 = connection ∨
      connection.interruption? token = none ∧ ∃ event : StateEvent, event.isVerdict ∧
        (connection.verifyAnswered token wallet answer).1 = connection.publish event := by
  simp only [verifyAnswered]
  split
  next interrupted => exact .inl ⟨by rw [interrupted]; rfl, rfl⟩
  next current =>
    refine .inr ⟨current, ?_⟩
    split
    · exact ⟨_, rfl, rfl⟩
    · exact ⟨_, rfl, rfl⟩
    · exact ⟨_, StateEvent.ofError_isVerdict _, rfl⟩

theorem operationAnswered_cases (call : OperationCall) :
    (connection.interruption? call.token).isSome ∧
        (connection.operationAnswered call).1 = connection ∨
      connection.interruption? call.token = none ∧ ∃ event : StateEvent, event.isVerdict ∧
        (connection.operationAnswered call).1 = connection.publish event := by
  simp only [operationAnswered]
  split
  next interrupted => exact .inl ⟨by rw [interrupted]; rfl, rfl⟩
  next current =>
    refine .inr ⟨current, ?_⟩
    split
    · exact ⟨_, rfl, rfl⟩
    · exact ⟨_, StateEvent.ofError_isVerdict _, rfl⟩

@[simp] theorem verifyAnswered_session (token : Token) (wallet : Wallet)
    (answer : AdapterAnswer) :
    (connection.verifyAnswered token wallet answer).1.session = connection.session := by
  rcases connection.verifyAnswered_cases token wallet answer with ⟨_, same⟩ | ⟨_, _, _, shown⟩
  · rw [same]
  · rw [shown, publish_session]

@[simp] theorem verifyAnswered_lastToken (token : Token) (wallet : Wallet)
    (answer : AdapterAnswer) :
    (connection.verifyAnswered token wallet answer).1.lastToken = connection.lastToken := by
  rcases connection.verifyAnswered_cases token wallet answer with ⟨_, same⟩ | ⟨_, _, _, shown⟩
  · rw [same]
  · rw [shown, publish_lastToken]

@[simp] theorem verifyAnswered_cancelled (token : Token) (wallet : Wallet)
    (answer : AdapterAnswer) :
    (connection.verifyAnswered token wallet answer).1.cancelled = connection.cancelled := by
  rcases connection.verifyAnswered_cases token wallet answer with ⟨_, same⟩ | ⟨_, _, _, shown⟩
  · rw [same]
  · rw [shown, publish_cancelled]

@[simp] theorem verifyAnswered_bench (token : Token) (wallet : Wallet) (answer : AdapterAnswer) :
    (connection.verifyAnswered token wallet answer).1.bench = connection.bench := by
  rcases connection.verifyAnswered_cases token wallet answer with ⟨_, same⟩ | ⟨_, _, _, shown⟩
  · rw [same]
  · rw [shown, publish_bench]

@[simp] theorem operationAnswered_session (call : OperationCall) :
    (connection.operationAnswered call).1.session = connection.session := by
  rcases connection.operationAnswered_cases call with ⟨_, same⟩ | ⟨_, _, _, shown⟩
  · rw [same]
  · rw [shown, publish_session]

@[simp] theorem operationAnswered_lastToken (call : OperationCall) :
    (connection.operationAnswered call).1.lastToken = connection.lastToken := by
  rcases connection.operationAnswered_cases call with ⟨_, same⟩ | ⟨_, _, _, shown⟩
  · rw [same]
  · rw [shown, publish_lastToken]

@[simp] theorem operationAnswered_cancelled (call : OperationCall) :
    (connection.operationAnswered call).1.cancelled = connection.cancelled := by
  rcases connection.operationAnswered_cases call with ⟨_, same⟩ | ⟨_, _, _, shown⟩
  · rw [same]
  · rw [shown, publish_cancelled]

@[simp] theorem operationAnswered_bench (call : OperationCall) :
    (connection.operationAnswered call).1.bench = connection.bench := by
  rcases connection.operationAnswered_cases call with ⟨_, same⟩ | ⟨_, _, _, shown⟩
  · rw [same]
  · rw [shown, publish_bench]

end Answers

/-! The state that is shown. -/

section Shown

variable (connection : Connection Bench)

@[simp] theorem state_deliver (signals : List Signal) :
    (connection.deliver signals).state = connection.state := by
  simp [state]

variable [AdapterBench Bench]

@[simp] theorem state_discard (adapter : AdapterId) :
    (connection.discard adapter).state = connection.state := by
  simp [state]

end Shown

end Connection

end SignerLink
