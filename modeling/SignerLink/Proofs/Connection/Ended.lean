import SignerLink.Proofs.Connection.SingleAdapter
import SignerLink.Proofs.Connection.Unowned
/-!
A session that is over. Whatever is asked of it then is turned down, and once it has no adapter it
never has one again.
-/

namespace SignerLink

structure Situation.OverWithoutAdapter {Bench : Type} (situation : Situation Bench) : Prop where
  ended : situation.connection.cancelled = true
  bare : situation.connection.session.adapter = none

variable {Bench : Type} [AdapterBench Bench]

namespace Connection

variable {connection after : Connection Bench}

theorem discard_bare (bare : connection.session.adapter = none) (adapter : AdapterId) :
    (connection.discard adapter).session = connection.session := by
  rw [discard_session, if_neg]
  rw [bare]
  exact fun held => by cases held

section Ended

variable (ended : connection.cancelled = true)

include ended

theorem clearError_ended : connection.clearError = connection := by
  simp only [clearError, ended, if_true]

theorem handleDisconnect_ended (error : Option WalletError) :
    connection.handleDisconnect error = connection := by
  simp only [handleDisconnect, ended, Bool.true_or, if_true]

theorem readiness_ended (wallet : Wallet) (wanted : Option String) :
    connection.readiness wallet wanted = .refused := by
  simp only [readiness, ended, if_true]

omit [AdapterBench Bench] in
theorem interruption?_ended (token : Token) : connection.interruption? token = some .aborted := by
  simp only [interruption?, ended, if_true]

end Ended

end Connection

theorem Move.overWithoutAdapter {evolves : Bench → Bench → Prop} {before after : Situation Bench}
    {shown : Option Unbacked} (move : Move evolves before shown after)
    (closed : before.OverWithoutAdapter) : after.OverWithoutAdapter := by
  obtain ⟨ended, bare⟩ := closed
  cases move with
  | takeOver _ _ live =>
      rw [live] at ended
      cases ended
  | locate _ current | install _ current _ _ | connect current | fail _ current =>
      rw [Connection.interruption?_ended ended] at current
      cases current
  | giveWay _ | leave _ | inbox _ _ | hold _ _ => exact ⟨ended, bare⟩
  | serve | clearError | notice _ _ | verify _ _ | operated _ =>
      exact ⟨by simpa using ended, by simpa using bare⟩
  | reset | teardown => exact ⟨by simpa using ended, by simp⟩
  | cancel => exact ⟨rfl, bare⟩
  | discard _ =>
      refine ⟨by simpa using ended, ?_⟩
      rw [Connection.discard_bare bare]
      exact bare
  | leaveNothing _ =>
      refine ⟨by simpa using ended, ?_⟩
      rw [Connection.supersede_finishDisconnect_session]
      exact bare
  | left call =>
      refine ⟨by simpa using ended, ?_⟩
      rw [Connection.disconnectAnswered_session, Connection.discard_bare bare]
      split <;> exact bare
  | lose error =>
      rw [Connection.handleDisconnect_ended ended]
      exact ⟨ended, bare⟩
  | operate _ _ =>
      rw [if_pos ended]
      exact ⟨ended, bare⟩

namespace Connection

variable {connection after : Connection Bench}

theorem resumeReadiness_interrupted [CountingBench Bench] (unowned : connection.IsUnowned)
    (call : ReadinessCall) : (connection.resumeReadiness call).2 = .finished false := by
  cases call with
  | attempting wallet call =>
      simp only [resumeReadiness, resumeAttempt_interrupted unowned, verifyConnected,
        interruptedOutcome_isConnected, Bool.false_eq_true, if_false]
  | verifying token wallet deviceId adapter =>
      have waited := connection.await_stays adapter (.verify deviceId)
      simp only [resumeReadiness, verifyAnswered, interruption?_unowned (waited.unowned unowned)]

/-! Requests. -/

variable [CountingBench Bench]

theorem ask_stays (connection : Connection Bench) (adapter : AdapterId)
    (request : AdapterRequest) : connection.Stays (connection.ask adapter request).1 := by
  have asked := CountingBench.serves.asks connection.bench adapter request
  refine .of_same (by simp [ask]) ?_ (by simp [ask]) (by simp [ask])
  rw [ask, deliver_bench]
  exact asked

theorem Stays.of_supersede (stays : connection.supersede.Stays after)
    (empty : connection.session = {} → after.session = {}) : connection.Stays after :=
  ⟨stays.published, stays.created, stays.ended, empty⟩

theorem disconnect_stays (ended : connection.cancelled = true) :
    connection.Stays connection.disconnect.1 := by
  have unowned : connection.supersede.IsUnowned := .inl ended
  rw [disconnect_eq]
  cases held : connection.session.adapter with
  | none =>
      refine .of_supersede (finishDisconnect_stays unowned _) ?_
      intro _
      rw [supersede_finishDisconnect_session, held]
  | some adapter =>
      have occupied {next : Connection Bench} (empty : connection.session = {}) :
          next.session = {} := by
        rw [empty] at held
        cases held
      have asked := connection.supersede.ask_stays adapter .disconnect
      dsimp only
      rcases reached : connection.supersede.ask adapter .disconnect with ⟨later, reply⟩
      rw [reached] at asked
      cases reply with
      | later milliseconds => exact asked.of_supersede occupied
      | now answer =>
          have discarded := asked.trans (discard_stays later adapter)
          have finished := finishDisconnect_stays (discarded.unowned unowned)
            (connection.lastToken + 1)
          exact (discarded.trans finished).of_supersede occupied

theorem operate_stays (ended : connection.cancelled = true) (operation : Operation) :
    connection.Stays (connection.operate operation).1 := by
  have unowned : connection.IsUnowned := .inl ended
  simp only [operate]
  split
  next =>
    simp only [ended, if_true, operationAnswered, interruption?_unowned unowned]
    split <;> exact .refl connection
  next => exact .refl connection

theorem react_stays (ended : connection.cancelled = true) {event : ConnectionEvent}
    (kept : event ≠ .reset) : connection.Stays (connection.react event) := by
  have unowned : connection.IsUnowned := .inl ended
  cases event with
  | reset => exact absurd rfl kept
  | teardown => exact teardown_stays connection
  | cancel => exact ⟨rfl, rfl, fun _ => rfl, id⟩
  | clearError =>
      rw [react, clearError_ended ended]
      exact .refl connection
  | lost error =>
      rw [react, handleDisconnect_ended ended]
      exact .refl connection
  | noticed token notice =>
      rw [react, handleNotice_unowned unowned]
      exact .refl connection
  | pump => exact pump_stays unowned
  | closeInbox => exact .of_same rfl rfl rfl rfl

end Connection

end SignerLink
