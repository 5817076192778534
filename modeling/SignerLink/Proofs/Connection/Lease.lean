import SignerLink.Proofs.Connection.Allocation
import SignerLink.Proofs.Connection.Tokens
/-!
What a readiness call relies on between its steps: a token, the wallet that it is for, and the
device and adapter that it has found. As long as the token is the session's, nobody else changes
the wallet or the device. The adapter may be taken away, but not replaced.
-/

namespace SignerLink

structure Lease where
  token : Token
  wallet : Wallet
  deviceId : Option String
  adapter : Option AdapterId

def AttemptCall.lease : AttemptCall → Lease
  | .searching token wallet _ => ⟨token, wallet, none, none⟩
  | .connecting token wallet deviceId adapter => ⟨token, wallet, some deviceId, some adapter⟩

def ReadinessCall.lease : ReadinessCall → Lease
  | .attempting _ call => call.lease
  | .verifying token wallet deviceId adapter => ⟨token, wallet, some deviceId, some adapter⟩

/-- The lease is for the wallet, and on the device where one is wanted. -/
structure Lease.IsFor (lease : Lease) (wallet : Wallet) (wanted : Option String) : Prop where
  wallet : lease.wallet = wallet
  device : ∀ id, wanted = some id → lease.deviceId = some id

variable {Bench : Type}

/-- The session agrees with the lease for as long as its token is the lease's. The flights are
those of everybody else; none of them searches under the token. -/
structure Lease.Stands (lease : Lease) (connection : Connection Bench)
    (flights : Multiset Flight) : Prop where
  issued : lease.token ≤ connection.lastToken
  alone : .attempt lease.token none ∉ flights
  session : connection.session.token = some lease.token →
    connection.session.wallet = some lease.wallet ∧
      connection.session.deviceId = lease.deviceId ∧
      (connection.session.adapter = lease.adapter ∨ connection.session.adapter = none)

theorem Lease.Stands.of_session {lease : Lease} {connection next : Connection Bench}
    {flights : Multiset Flight} (stands : lease.Stands connection flights)
    (session : next.session = connection.session)
    (issued : next.lastToken = connection.lastToken) : lease.Stands next flights where
  issued := issued ▸ stands.issued
  alone := stands.alone
  session := session ▸ stands.session

/-- What has happened to a session under a token leaves all but the adapter as it was. -/
structure Session.KeptUnder (token : Token) (before after : Session) : Prop where
  current : before.token = some token
  wallet : after.wallet = before.wallet
  deviceId : after.deviceId = before.deviceId
  adapter : after.adapter = before.adapter ∨ after.adapter = none

theorem Session.KeptUnder.refl {session : Session} {token : Token}
    (current : session.token = some token) : session.KeptUnder token session :=
  ⟨current, rfl, rfl, .inl rfl⟩

variable [AdapterBench Bench] {evolves : Bench → Bench → Prop}

theorem Connection.discard_keptUnder {connection : Connection Bench} {adapter : AdapterId}
    {token : Token} (current : (connection.discard adapter).session.token = some token) :
    connection.session.KeptUnder token (connection.discard adapter).session := by
  rw [discard_token] at current
  rw [discard_session]
  split
  next => exact ⟨current, rfl, rfl, .inr rfl⟩
  next => exact .refl current

namespace Move

variable {before after : Situation Bench} {shown : Option Unbacked} {token : Token}

theorem search_flight (move : Move evolves before shown after)
    (member : .attempt token none ∈ after.flights) :
    .attempt token none ∈ before.flights ∨ token = before.connection.lastToken + 1 := by
  cases move with
  | serve | locate _ _ | leaveNothing _ | reset | teardown | cancel | clearError | lose _
  | notice _ _ | inbox _ _ => exact .inl member
  | giveWay _ | connect _ | fail _ _ | discard _ | left _ | verify _ _ | operated _ =>
      exact .inl (Multiset.mem_cons_of_mem member)
  | takeOver _ _ _ =>
      rcases Multiset.mem_cons.mp member with same | member
      · cases same
        exact .inr rfl
      · exact .inl member
  | install _ _ _ _ =>
      rcases Multiset.mem_cons.mp member with same | member
      · cases same
      · exact .inl (Multiset.mem_cons_of_mem member)
  | leave _ | hold _ _ | operate _ _ =>
      rcases Multiset.mem_cons.mp member with same | member
      · cases same
      · exact .inl member

/-- A move of others leaves the session as it is for the owner of its token, up to the adapter. -/
theorem session_kept (move : Move evolves before shown after)
    (issued : token ≤ before.connection.lastToken)
    (alone : .attempt token none ∉ before.flights)
    (current : after.connection.session.token = some token) :
    before.connection.session.KeptUnder token after.connection.session := by
  have fresh (new : some (before.connection.lastToken + 1) = some token) : False := by
    cases new
    exact Nat.not_succ_le_self _ issued
  have leads {connection : Connection Bench} {other : Token} {flights : Multiset Flight}
      (leads : connection.interruption? other = none)
      (same : connection.session.token = some token)
      (alone : .attempt token none ∉ Flight.attempt other none ::ₘ flights) : False := by
    cases (Connection.interruption?_eq_none.mp leads).2.symm.trans same
    exact alone (Multiset.mem_cons_self _ _)
  cases move with
  | giveWay _ | cancel | inbox _ _ | hold _ _ => exact .refl current
  | serve | connect _ | clearError | verify _ _ | operated _ =>
      exact ⟨by simpa using current, by simp, by simp, .inl (by simp)⟩
  | operate _ _ =>
      rw [Connection.awaiting_session] at current ⊢
      exact .refl current
  | notice token notice =>
      obtain ⟨appName, session⟩ := Connection.handleNotice_session _ token notice
      rw [session] at current ⊢
      exact ⟨current, rfl, rfl, .inl rfl⟩
  | locate _ mine => exact (leads mine current alone).elim
  | install _ mine _ _ => exact (leads mine current alone).elim
  | takeOver wallet deviceId _ =>
      rw [Connection.beginAttempt_session] at current
      exact (fresh current).elim
  | leave _ => exact (fresh current).elim
  | leaveNothing _ =>
      rw [Connection.supersede_finishDisconnect_session] at current
      cases current
  | fail error _ =>
      rw [Connection.failAttempt_session] at current
      cases current
  | reset =>
      rw [Connection.reset_session] at current
      cases current
  | teardown =>
      rw [Connection.teardown_session] at current
      cases current
  | discard _ => exact Connection.discard_keptUnder current
  | left call =>
      rw [Connection.disconnectAnswered_session] at current ⊢
      split at current
      next => cases current
      next stale => exact (if_neg stale).symm ▸ Connection.discard_keptUnder current
  | lose error =>
      rw [Connection.handleDisconnect_session] at current ⊢
      split at current
      next ignored => exact (if_pos ignored).symm ▸ .refl current
      next => cases current

theorem stands {lease : Lease} (move : Move evolves before shown after)
    (stands : lease.Stands before.connection before.flights) :
    lease.Stands after.connection after.flights where
  issued := stands.issued.trans move.lastToken_le
  alone member := by
    rcases move.search_flight member with flew | fresh
    · exact stands.alone flew
    · have issued := stands.issued
      rw [fresh] at issued
      exact Nat.not_succ_le_self _ issued
  session current := by
    have kept := move.session_kept stands.issued stands.alone current
    obtain ⟨wallet, deviceId, adapter⟩ := stands.session kept.current
    refine ⟨kept.wallet.trans wallet, kept.deviceId.trans deviceId, ?_⟩
    rcases kept.adapter with same | taken
    · rw [same]
      exact adapter
    · exact .inr taken

end Move

theorem Run.Step.stands {before after : Run Bench} {lease : Lease} (serves : Serves evolves)
    (step : Run.Step evolves before after)
    (stands : lease.Stands before.connection before.situation.flights) :
    lease.Stands after.connection after.situation.flights :=
  Run.Steps.keep (fun situation => lease.Stands situation.connection situation.flights) serves
    (fun move => move.stands) (.single step) stands

/-! Attempts. -/

structure Connection.Attempted (wallet : Wallet) (wanted : Option String)
    (flights : Multiset Flight) (result : Connection Bench × Connection.AttemptProgress) :
    Prop where
  waiting : ∀ call milliseconds, result.2 = .waiting call milliseconds →
    call.lease.IsFor wallet wanted ∧ call.lease.Stands result.1 flights
  connected : result.2 = .finished .connected →
    ∃ lease : Lease, lease.IsFor wallet wanted ∧ lease.Stands result.1 flights ∧
      result.1.session.token = some lease.token

namespace Connection

variable {connection : Connection Bench} {token : Token} {wallet : Wallet}
  {wanted : Option String} {flights : Multiset Flight}

omit [AdapterBench Bench] in
theorem interruption?_ne_connected {outcome : ConnectOutcome}
    (interrupted : connection.interruption? token = some outcome) : outcome ≠ .connected := by
  rintro rfl
  simp only [interruption?] at interrupted
  split at interrupted
  · cases interrupted
  · split at interrupted <;> cases interrupted

omit [AdapterBench Bench] in
theorem Attempted.ended {outcome : ConnectOutcome} (other : outcome ≠ .connected) :
    Attempted wallet wanted flights (connection, .finished outcome) where
  waiting _ _ waits := by cases waits
  connected ended := by
    cases ended
    exact absurd rfl other

omit [AdapterBench Bench] in
theorem Attempted.failed (error : WalletError) :
    Attempted wallet wanted flights (connection, .finished (.failed error)) := by
  refine .ended ?_
  intro same
  cases same

@[simp] theorem ask_session (connection : Connection Bench) (adapter : AdapterId)
    (request : AdapterRequest) :
    (connection.ask adapter request).1.session = connection.session :=
  deliver_session _ _

theorem connectAnswered_attempted {deviceId : String} {adapter : AdapterId}
    (stands : (⟨token, wallet, some deviceId, some adapter⟩ : Lease).Stands connection flights)
    (isFor : (⟨token, wallet, some deviceId, some adapter⟩ : Lease).IsFor wallet wanted)
    (answer : AdapterAnswer) :
    Attempted wallet wanted flights
      ((connection.connectAnswered token wallet adapter answer).1,
        .finished (connection.connectAnswered token wallet adapter answer).2) := by
  simp only [connectAnswered]
  split
  next outcome interrupted => exact .ended (interruption?_ne_connected interrupted)
  next leads =>
    cases answer with
    | error error => exact .failed _
    | ok _ =>
        constructor
        case waiting =>
          intro _ _ waits
          cases waits
        case connected =>
          intro _
          refine ⟨_, isFor, ?_, ?_⟩
          · constructor
            · simpa using stands.issued
            · exact stands.alone
            · simpa using stands.session
          · simpa using (interruption?_eq_none.mp leads).2

theorem openAdapter_attempted {deviceId : String}
    (owner : connection.session.wallet = some wallet) (issued : token ≤ connection.lastToken)
    (alone : .attempt token none ∉ flights)
    (wants : ∀ id, wanted = some id → deviceId = id) :
    Attempted wallet wanted flights (connection.openAdapter token wallet deviceId) := by
  simp only [openAdapter]
  split
  next => exact .failed _
  next bench adapter _ =>
    generalize opened : setSession { setSession connection _ with bench := bench } _ = next
    let lease : Lease := ⟨token, wallet, some deviceId, some adapter⟩
    have isFor : lease.IsFor wallet wanted :=
      ⟨rfl, fun id want => congrArg some (wants id want)⟩
    have stands : lease.Stands next flights := by
      rw [← opened]
      exact ⟨issued, alone, fun _ => ⟨owner, rfl, .inl rfl⟩⟩
    have session := next.ask_session adapter (.connect deviceId)
    have tokens := next.ask_lastToken adapter (.connect deviceId)
    rcases reached : next.ask adapter (.connect deviceId) with ⟨later, reply⟩
    rw [reached] at session tokens
    cases reply with
    | later milliseconds =>
        constructor
        case waiting =>
          intro call _ waits
          cases waits
          exact ⟨isFor, stands.of_session session tokens⟩
        case connected =>
          intro ended
          cases ended
    | now answer => exact connectAnswered_attempted (stands.of_session session tokens) isFor answer

theorem searched_attempted
    (stands : (⟨token, wallet, none, none⟩ : Lease).Stands connection flights)
    (free : wanted = none) (found : DeviceSearch) :
    Attempted wallet wanted flights (connection.searched token wallet found) := by
  simp only [searched]
  split
  next outcome interrupted => exact .ended (interruption?_ne_connected interrupted)
  next leads =>
    have owner := (stands.session (interruption?_eq_none.mp leads).2).1
    split
    next deviceId =>
      refine openAdapter_attempted owner stands.issued stands.alone ?_
      intro id want
      cases free.symm.trans want
    next => exact .failed _
    next => exact .failed _

theorem connect_attempted {target : Target}
    (fresh : .attempt (connection.lastToken + 1) none ∉ flights)
    (wants : ∀ id, wanted = some id → target = .device id) :
    Attempted wallet wanted flights (connection.connect wallet target) := by
  by_cases cancelled : connection.cancelled = true
  · simp only [connect, cancelled, if_true]
    refine .ended ?_
    intro same
    cases same
  · have live : connection.cancelled = false := by simpa using cancelled
    have issued {deviceId : Option String} :
        connection.lastToken + 1 ≤ (connection.beginAttempt wallet deviceId).1.lastToken :=
      (connection.beginAttempt_lastToken wallet deviceId).ge
    simp only [connect, live, Bool.false_eq_true, if_false]
    cases target with
    | device id =>
        refine openAdapter_attempted (by simp) issued fresh ?_
        intro other want
        cases wants other want
        rfl
    | search found milliseconds =>
        have free : wanted = none := by
          cases want : wanted with
          | none => rfl
          | some id => cases wants id want
        have stands : (⟨connection.lastToken + 1, wallet, none, none⟩ : Lease).Stands
            (connection.beginAttempt wallet none).1 flights :=
          ⟨issued, fresh, fun _ => by simp⟩
        simp only
        split
        · exact searched_attempted stands free found
        · constructor
          case waiting =>
            intro call _ waits
            cases waits
            refine ⟨⟨rfl, ?_⟩, stands⟩
            intro id want
            cases free.symm.trans want
          case connected =>
            intro ended
            cases ended

theorem resumeAttempt_attempted {call : AttemptCall}
    (isFor : call.lease.IsFor wallet wanted) (stands : call.lease.Stands connection flights) :
    Attempted wallet wanted flights (connection.resumeAttempt call) := by
  cases call with
  | searching token other found =>
      cases isFor.wallet
      refine searched_attempted stands ?_ found
      cases want : wanted with
      | none => rfl
      | some id => cases isFor.device id want
  | connecting token other deviceId adapter =>
      cases isFor.wallet
      have waited := stands.of_session (connection.await_session adapter (.connect deviceId))
        (connection.await_lastToken adapter (.connect deviceId))
      exact connectAnswered_attempted waited isFor _

end Connection

end SignerLink
