import SignerLink.Adapter.Simulated
import SignerLink.Proofs.Connection.Tokens
/-!
The latest attempt wins. A token that is no longer the session's never becomes the session's
again, and whoever goes on under such a token leaves the session as it is.
-/

namespace SignerLink

variable {Bench : Type} [AdapterBench Bench]

structure Connection.IsSuperseded (connection : Connection Bench) (token : Token) : Prop where
  issued : token ≤ connection.lastToken
  stale : connection.session.token ≠ some token

theorem Move.superseded {evolves : Bench → Bench → Prop} {before after : Situation Bench}
    {shown : Option Unbacked} {token : Token} (move : Move evolves before shown after)
    (given : before.connection.IsSuperseded token) : after.connection.IsSuperseded token := by
  obtain ⟨issued, stale⟩ := given
  rcases move.token with ⟨same, kept | lost⟩ | ⟨more, fresh | lost⟩
  · exact ⟨same ▸ issued, kept ▸ stale⟩
  · exact ⟨same ▸ issued, by simp [lost]⟩
  · refine ⟨issued.trans (Nat.le_of_lt more), ?_⟩
    rw [fresh, ne_eq, Option.some.injEq]
    exact Nat.ne_of_gt (Nat.lt_of_le_of_lt issued more)
  · exact ⟨issued.trans (Nat.le_of_lt more), by simp [lost]⟩

namespace Connection

variable {connection : Connection Bench} {token : Token}

/-- What a step leaves of the session that it has no say in: all of it, but for an adapter that
the step destroys. -/
structure Spares (before after : Connection Bench) : Prop where
  published : after.published = before.published
  token : after.session.token = before.session.token
  connecting : after.session.connecting = before.session.connecting
  wallet : after.session.wallet = before.session.wallet
  deviceId : after.session.deviceId = before.session.deviceId
  appName : after.session.appName = before.session.appName
  adapter : after.session.adapter = before.session.adapter ∨
    ∃ adapter bench, before.session.adapter = some adapter ∧ after.session.adapter = none ∧
      after.bench = AdapterBench.destroy bench adapter

namespace Spares

variable {first second third : Connection Bench}

theorem of_eq (published : second.published = first.published)
    (session : second.session = first.session) : Spares first second := by
  constructor <;> simp [published, session]

theorem of_start (published : second.published = first.published)
    (session : second.session = first.session) (rest : Spares second third) :
    Spares first third where
  published := rest.published.trans published
  token := rest.token.trans (by rw [session])
  connecting := rest.connecting.trans (by rw [session])
  wallet := rest.wallet.trans (by rw [session])
  deviceId := rest.deviceId.trans (by rw [session])
  appName := rest.appName.trans (by rw [session])
  adapter := session ▸ rest.adapter

end Spares

theorem discard_spares (connection : Connection Bench) (adapter : AdapterId) :
    Spares connection (connection.discard adapter) := by
  by_cases held : connection.session.adapter = some adapter
  · have session : (connection.discard adapter).session =
        { connection.session with adapter := none } := by
      rw [discard_session, if_pos held]
    constructor
    case adapter =>
      exact .inr
        ⟨adapter, connection.bench, held, by rw [session], discard_bench connection adapter⟩
    all_goals simp only [session, discard_published]
  · exact .of_eq (by simp) (by rw [discard_session, if_neg held])

theorem await_spares {adapter : AdapterId} {request : AdapterRequest} {after : Connection Bench}
    (rest : Spares (connection.await adapter request).1 after) : Spares connection after :=
  .of_start (await_published _ _ _) (await_session _ _ _) rest

/-! Calls. -/

def interruptedOutcome (connection : Connection Bench) : ConnectOutcome :=
  if connection.cancelled then .aborted else .superseded

omit [AdapterBench Bench] in
theorem interruption?_of_stale (stale : connection.session.token ≠ some token) :
    connection.interruption? token = some connection.interruptedOutcome := by
  simp only [interruption?, interruptedOutcome, stale, not_false_eq_true, ne_eq, if_true]
  split <;> rfl

theorem connectAnswered_spares (stale : connection.session.token ≠ some token) (wallet : Wallet)
    (adapter : AdapterId) (answer : AdapterAnswer) :
    Spares connection (connection.connectAnswered token wallet adapter answer).1 ∧
      (connection.connectAnswered token wallet adapter answer).2 =
        connection.interruptedOutcome := by
  simp only [connectAnswered, interruption?_of_stale stale]
  exact ⟨discard_spares connection adapter, trivial⟩

theorem resumeAttempt_spares (call : AttemptCall)
    (stale : connection.session.token ≠ some call.token) :
    Spares connection (connection.resumeAttempt call).1 ∧
      (connection.resumeAttempt call).2 = .finished connection.interruptedOutcome := by
  cases call with
  | searching token wallet found =>
      have interrupted : connection.interruption? token = some connection.interruptedOutcome :=
        interruption?_of_stale stale
      simp only [resumeAttempt, searched, interrupted]
      exact ⟨.of_eq rfl rfl, trivial⟩
  | connecting token wallet deviceId adapter =>
      have later : (connection.await adapter (.connect deviceId)).1.session.token ≠ some token := by
        rw [await_session]
        exact stale
      have answered := connectAnswered_spares later wallet adapter
        (connection.await adapter (.connect deviceId)).2
      simp only [interruptedOutcome, await_cancelled] at answered
      exact ⟨await_spares answered.1, congrArg Progress.finished answered.2⟩

omit [AdapterBench Bench] in
theorem interruptedOutcome_isConnected (connection : Connection Bench) :
    connection.interruptedOutcome.isConnected = false := by
  simp only [interruptedOutcome]
  split <;> rfl

omit [AdapterBench Bench] in
theorem verifyAnswered_spares (stale : connection.session.token ≠ some token) (wallet : Wallet)
    (answer : AdapterAnswer) :
    connection.verifyAnswered token wallet answer = (connection, false) := by
  simp only [verifyAnswered, interruption?_of_stale stale]

theorem resumeReadiness_spares {call : ReadinessCall}
    (stale : connection.session.token ≠ some (ConnectionCall.readiness call).token) :
    Spares connection (connection.resumeReadiness call).1 ∧
      (connection.resumeReadiness call).2 = .finished false := by
  cases call with
  | attempting wallet call =>
      obtain ⟨spares, ended⟩ := resumeAttempt_spares call stale
      simp only [resumeReadiness, ended, verifyConnected, interruptedOutcome_isConnected,
        Bool.false_eq_true, if_false]
      exact ⟨spares, trivial⟩
  | verifying token wallet deviceId adapter =>
      have later : (connection.await adapter (.verify deviceId)).1.session.token ≠ some token := by
        rw [await_session]
        exact stale
      simp only [resumeReadiness, verifyAnswered_spares later]
      exact ⟨await_spares (.of_eq rfl rfl), trivial⟩

theorem resumeDisconnect_spares {call : DisconnectCall}
    (stale : connection.session.token ≠ some call.token) :
    Spares connection (connection.resumeDisconnect call).1 := by
  have later : ((connection.await call.adapter .disconnect).1.discard
      call.adapter).session.token ≠ some call.token := by
    rw [discard_token, await_session]
    exact stale
  have ended : ((connection.await call.adapter .disconnect).1.disconnectAnswered call) =
      (connection.await call.adapter .disconnect).1.discard call.adapter := by
    simp only [disconnectAnswered, finishDisconnect, ne_eq, later, not_false_eq_true, if_true]
  simp only [resumeDisconnect, ended]
  exact await_spares (discard_spares _ call.adapter)

omit [AdapterBench Bench] in
theorem operationAnswered_spares {call : OperationCall}
    (stale : connection.session.token ≠ some call.token) :
    (connection.operationAnswered call).1 = connection := by
  simp only [operationAnswered, interruption?_of_stale stale]

omit [AdapterBench Bench] in
theorem handleNotice_stale (stale : connection.session.token ≠ some token) (notice : Notice) :
    connection.handleNotice token notice = connection := by
  simp [handleNotice, stale]

theorem handleNotice_spares (stale : connection.session.token ≠ some token) (notice : Notice) :
    Spares connection (connection.handleNotice token notice) := by
  rw [handleNotice_stale stale]
  exact .of_eq rfl rfl

theorem pump_spares {signal : Signal} {rest : List Signal}
    (waiting : connection.inbox = signal :: rest)
    (stale : connection.session.token ≠ some signal.token) : Spares connection connection.pump := by
  simp only [pump, waiting]
  have still : ({ connection with inbox := rest } : Connection Bench).session.token ≠
      some signal.token := stale
  rw [handleNotice_stale still]
  exact .of_eq rfl rfl

def IsSupersededReply (connection : Connection Bench) : ConnectionReply → Prop
  | .attempt outcome => outcome = connection.interruptedOutcome
  | .ready yes => yes = false
  | .disconnected | .operation _ => True

theorem resume_spares {call : ConnectionCall}
    (stale : connection.session.token ≠ some call.token) :
    Spares connection (connection.resume call).1 ∧
      ∃ reply, (connection.resume call).2 = .finished reply ∧
        connection.IsSupersededReply reply := by
  cases call <;> simp only [resume, Prod.map_fst, Prod.map_snd, id_eq]
  case attempt call =>
    obtain ⟨spares, ended⟩ := resumeAttempt_spares call stale
    exact ⟨spares, .attempt connection.interruptedOutcome, by rw [ended]; rfl, rfl⟩
  case readiness call =>
    obtain ⟨spares, ended⟩ := resumeReadiness_spares stale
    exact ⟨spares, .ready false, by rw [ended]; rfl, rfl⟩
  case disconnect call => exact ⟨resumeDisconnect_spares stale, _, rfl, trivial⟩
  case operation call =>
    have same : (connection.resumeOperation call).1 = connection := operationAnswered_spares stale
    exact ⟨.of_eq (by rw [same]) (by rw [same]), _, rfl, trivial⟩

end Connection

namespace Run

variable {run : Run Bench}

theorem Reachable.issued (reachable : run.Reachable fun _ _ => True) : run.situation.Issued :=
  reachable.allocated Connection.serves_always

theorem Steps.superseded {later : Run Bench} {token : Token}
    (steps : Steps (fun _ _ => True) run later) (given : run.connection.IsSuperseded token) :
    later.connection.IsSuperseded token :=
  steps.keep (fun situation => situation.connection.IsSuperseded token) Connection.serves_always
    (fun move => move.superseded) given

/-- A call whose token is no longer the session's leaves the session alone, tells nobody that it
has connected, and never gets its turn again; notices under such a token are dropped. -/
theorem latest_attempt_wins (reachable : run.Reachable fun _ _ => True) :
    (∀ call ∈ run.calls, run.connection.session.token ≠ some call.token →
      Connection.Spares run.connection (run.connection.resume call).1 ∧
      (∃ reply, (run.connection.resume call).2 = .finished reply ∧
        run.connection.IsSupersededReply reply) ∧
      ∀ later, Steps (fun _ _ => True) run later →
        later.connection.session.token ≠ some call.token) ∧
    (∀ token notice, run.connection.session.token ≠ some token →
      Connection.Spares run.connection (run.connection.handleNotice token notice)) ∧
    (∀ signal rest, run.connection.inbox = signal :: rest →
      run.connection.session.token ≠ some signal.token →
      Connection.Spares run.connection run.connection.pump) := by
  refine ⟨?_, ?_, ?_⟩
  · intro call member stale
    have issued : call.token ≤ run.connection.lastToken := by
      rw [← call.flight_token]
      exact reachable.issued.flights _ (Multiset.mem_map_of_mem _ member)
    obtain ⟨spares, ended⟩ := Connection.resume_spares stale
    exact ⟨spares, ended, fun later steps => (steps.superseded ⟨issued, stale⟩).stale⟩
  · exact fun token notice stale => Connection.handleNotice_spares stale notice
  · exact fun signal rest waiting stale => Connection.pump_spares waiting stale

def twoSearches : Run SimulatedBench :=
  let search : ConnectionRequest := .connect .ledger (.search (.ok (some "left")) 5)
  ((start {}).begin search).begin search

theorem latest_attempt_wins_twoSearches :
    Connection.Spares twoSearches.connection (twoSearches.connection.resume
      (.attempt (.searching 1 .ledger (.ok (some "left"))))).1 :=
  have reachable : twoSearches.Reachable fun _ _ => True :=
    ⟨{}, .tail (.tail .refl (.begin _ _)) (.begin _ _)⟩
  have member : .attempt (.searching 1 .ledger (.ok (some "left"))) ∈ twoSearches.calls := by
    have calls : twoSearches.calls =
        {.attempt (.searching 2 .ledger (.ok (some "left")))} +
          ({.attempt (.searching 1 .ledger (.ok (some "left")))} + 0) := rfl
    simp [calls]
  ((latest_attempt_wins reachable).1 _ member (by decide)).1

end Run

end SignerLink
