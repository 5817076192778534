import SignerLink.Proofs.Adapter.Counting
import SignerLink.Proofs.Connection.Engaged
import SignerLink.Proofs.Connection.Supersession
/-!
A session that is over or that nobody owns. Whatever is still under way then is interrupted: it
creates no adapter, shows nothing and takes nothing over.
-/

namespace SignerLink

namespace Connection

variable {Bench : Type} {connection : Connection Bench}

def IsUnowned (connection : Connection Bench) : Prop :=
  connection.cancelled = true ∨ connection.session = {}

theorem interruption?_unowned (unowned : connection.IsUnowned) (token : Token) :
    connection.interruption? token = some connection.interruptedOutcome := by
  rcases unowned with ended | empty
  · simp [interruption?, interruptedOutcome, ended]
  · exact interruption?_of_stale (by simp [empty])

theorem handleNotice_unowned (unowned : connection.IsUnowned) (token : Token) (notice : Notice) :
    connection.handleNotice token notice = connection := by
  rcases unowned with ended | empty
  · simp [handleNotice, ended]
  · exact handleNotice_stale (by simp [empty]) notice

variable [AdapterBench Bench]

theorem reset_state : connection.reset.state = .disconnected := by
  have still : (connection.releaseAdapter.setSession {}).session.connecting = false := rfl
  exact publish_disconnected still

variable [CountingBench Bench] {first second third : Connection Bench}

/-- Nothing has been shown or created in between, and the session is no less over or empty. -/
structure Stays (before after : Connection Bench) : Prop where
  published : after.published = before.published
  created : CountingBench.created after.bench = CountingBench.created before.bench
  ended : before.cancelled = true → after.cancelled = true
  empty : before.session = {} → after.session = {}

namespace Stays

theorem of_same (published : second.published = first.published)
    (created : CountingBench.created second.bench = CountingBench.created first.bench)
    (cancelled : second.cancelled = first.cancelled) (session : second.session = first.session) :
    first.Stays second :=
  ⟨published, created, cancelled.trans, session.trans⟩

theorem refl (connection : Connection Bench) : connection.Stays connection :=
  of_same rfl rfl rfl rfl

theorem trans (earlier : first.Stays second) (later : second.Stays third) : first.Stays third where
  published := later.published.trans earlier.published
  created := later.created.trans earlier.created
  ended before := later.ended (earlier.ended before)
  empty before := later.empty (earlier.empty before)

theorem unowned (stays : first.Stays second) (unowned : first.IsUnowned) : second.IsUnowned := by
  rcases unowned with ended | empty
  · exact .inl (stays.ended ended)
  · exact .inr (stays.empty empty)

end Stays

theorem await_stays (connection : Connection Bench) (adapter : AdapterId)
    (request : AdapterRequest) : connection.Stays (connection.await adapter request).1 := by
  refine .of_same (await_published _ _ _) ?_ (await_cancelled _ _ _) (await_session _ _ _)
  have finished := CountingBench.finishes connection.bench adapter request
  simpa [await] using finished

theorem discard_stays (connection : Connection Bench) (adapter : AdapterId) :
    connection.Stays (connection.discard adapter) where
  published := discard_published _ _
  created := by
    rw [discard_bench]
    exact CountingBench.destroys _ _
  ended := (discard_cancelled _ _).trans
  empty := by
    intro empty
    rw [discard_session, empty]
    rfl

theorem teardown_stays (connection : Connection Bench) : connection.Stays connection.teardown where
  published := by rw [teardown, setSession, releaseAdapter_published]
  created := by
    rw [teardown_bench, releaseAdapter_bench]
    cases connection.session.adapter with
    | none => rfl
    | some adapter => exact CountingBench.destroys _ _
  ended := (teardown_cancelled _).trans
  empty := by
    intro empty
    rw [teardown_session, empty]

/-! Calls that go on. -/

section Calls

variable (unowned : connection.IsUnowned)

include unowned

theorem connectAnswered_stays (token : Token) (wallet : Wallet) (adapter : AdapterId)
    (answer : AdapterAnswer) :
    connection.Stays (connection.connectAnswered token wallet adapter answer).1 := by
  simp only [connectAnswered, interruption?_unowned unowned]
  exact discard_stays connection adapter

theorem resumeAttempt_stays (call : AttemptCall) :
    connection.Stays (connection.resumeAttempt call).1 := by
  cases call with
  | searching token wallet found =>
      simp only [resumeAttempt, searched, interruption?_unowned unowned]
      exact .refl connection
  | connecting token wallet deviceId adapter =>
      have waited := connection.await_stays adapter (.connect deviceId)
      exact waited.trans (connectAnswered_stays (waited.unowned unowned) _ _ _ _)

theorem resumeAttempt_interrupted (call : AttemptCall) :
    (connection.resumeAttempt call).2 = .finished connection.interruptedOutcome := by
  cases call with
  | searching token wallet found =>
      simp only [resumeAttempt, searched, interruption?_unowned unowned]
  | connecting token wallet deviceId adapter =>
      have waited := connection.await_stays adapter (.connect deviceId)
      simp only [resumeAttempt, connectAnswered, interruption?_unowned (waited.unowned unowned),
        interruptedOutcome, await_cancelled]

theorem resumeReadiness_stays (call : ReadinessCall) :
    connection.Stays (connection.resumeReadiness call).1 := by
  cases call with
  | attempting wallet call =>
      simp only [resumeReadiness, resumeAttempt_interrupted unowned, verifyConnected,
        interruptedOutcome_isConnected, Bool.false_eq_true, if_false]
      exact resumeAttempt_stays unowned call
  | verifying token wallet deviceId adapter =>
      have waited := connection.await_stays adapter (.verify deviceId)
      simp only [resumeReadiness, verifyAnswered, interruption?_unowned (waited.unowned unowned)]
      exact waited

theorem finishDisconnect_stays (token : Token) :
    connection.Stays (connection.finishDisconnect token) := by
  by_cases current : connection.session.token = some token
  · -- An empty session has no token, so this one is over and shows nothing.
    rcases unowned with ended | empty
    · have goesOff {session : Session} : (connection.setSession session).cancelled = true := ended
      simp only [finishDisconnect, current, goesOff, ne_eq, not_true, if_false, if_true]
      refine ⟨rfl, rfl, id, ?_⟩
      intro empty
      rw [empty] at current
      cases current
    · rw [empty] at current
      cases current
  · rw [finishDisconnect_stale _ current]
    exact .refl connection

theorem resumeDisconnect_stays (call : DisconnectCall) :
    connection.Stays (connection.resumeDisconnect call).1 := by
  have waited := connection.await_stays call.adapter .disconnect
  have discarded := waited.trans (discard_stays _ call.adapter)
  exact discarded.trans (finishDisconnect_stays (discarded.unowned unowned) call.token)

theorem resumeOperation_stays (call : OperationCall) :
    connection.Stays (connection.resumeOperation call).1 := by
  simp only [resumeOperation, operationAnswered, interruption?_unowned unowned]
  exact .refl connection

theorem pump_stays : connection.Stays connection.pump := by
  simp only [pump]
  split
  next => exact .refl connection
  next signal rest _ =>
    have taken : connection.Stays { connection with inbox := rest } := .of_same rfl rfl rfl rfl
    rw [handleNotice_unowned (taken.unowned unowned)]
    exact taken

end Calls

end Connection

end SignerLink
