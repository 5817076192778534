import SignerLink.Adapter.Scripted
import SignerLink.Proofs.Connection.Backing
import SignerLink.Proofs.Connection.Lease
import SignerLink.Proofs.Connection.Supersession
/-!
What is true when a caller is told that a device is ready. One call is followed through a run, from
the step that begins it to the one that answers it; all the other calls go on meanwhile.
-/

namespace SignerLink

inductive ReadinessStage where
  | asks (found : DeviceSearch) (milliseconds : Nat)
  | waits (call : ReadinessCall)

def ReadinessCall.wallet : ReadinessCall → Wallet
  | .attempting wallet _ => wallet
  | .verifying _ wallet _ _ => wallet

variable {Bench : Type} [AdapterBench Bench]

structure ReadinessCall.Serves (call : ReadinessCall) (wallet : Wallet) (wanted : Option String)
    (connection : Connection Bench) (flights : Multiset Flight) : Prop where
  caller : call.wallet = wallet
  isFor : call.lease.IsFor wallet wanted
  stands : call.lease.Stands connection flights

namespace Connection

def readyStep (connection : Connection Bench) (wallet : Wallet) (wanted : Option String) :
    ReadinessStage → Connection Bench × ReadinessProgress
  | .asks found milliseconds => connection.makeReady wallet wanted found milliseconds
  | .waits call => connection.resumeReadiness call

def atVerification (connection : Connection Bench) (wallet : Wallet) (wanted : Option String) :
    ReadinessStage → Connection Bench
  | .asks found milliseconds =>
      match connection.readiness wallet wanted with
      | .wanting deviceId => (connection.connect wallet (.wanted deviceId found milliseconds)).1
      | .refused | .held _ _ _ => connection
  | .waits (.attempting _ call) => (connection.resumeAttempt call).1
  | .waits (.verifying _ _ _ _) => connection

/-- The adapter answers that its device is ready, and nothing but that is shown. -/
inductive Confirms (adapter : AdapterId) (deviceId : String) (before : Connection Bench) :
    Connection Bench → Prop where
  | atOnce {answered : Connection Bench} :
      before.ask adapter (.verify deviceId) = (answered, .now (.ok true)) →
      Confirms adapter deviceId before (answered.publish .ready)
  | afterDelay {answered : Connection Bench} :
      before.await adapter (.verify deviceId) = (answered, .ok true) →
      Confirms adapter deviceId before (answered.publish .ready)

/-- The session shows that it is ready, for the wallet and the device that were asked for, under
the token that the verified adapter was taken with. -/
structure IsVerified (wallet : Wallet) (wanted : Option String) (token : Token)
    (deviceId : String) (adapter : AdapterId) (before after : Connection Bench) : Prop where
  shown : after.state = .ready
  live : after.cancelled = false
  wallet : after.session.wallet = some wallet
  device : after.session.deviceId = some deviceId
  wanted : ∀ id, wanted = some id → deviceId = id
  token : after.session.token = some token
  held : after.session.adapter = some adapter ∨ after.session.adapter = none
  confirmed : before.Confirms adapter deviceId after

structure Readied (wallet : Wallet) (wanted : Option String) (flights : Multiset Flight)
    (before : Connection Bench) (result : Connection Bench × ReadinessProgress) : Prop where
  waiting : ∀ call milliseconds, result.2 = .waiting call milliseconds →
    call.Serves wallet wanted result.1 flights
  takes : ∀ token owner deviceId adapter milliseconds,
    result.2 = .waiting (.verifying token owner deviceId adapter) milliseconds →
      result.1.held? = some (token, deviceId, adapter)
  ready : result.2 = .finished true → ∃ token deviceId adapter,
    IsVerified wallet wanted token deviceId adapter before result.1 ∧
      result.1.held? = some (token, deviceId, adapter)

variable {connection before : Connection Bench} {wallet : Wallet} {wanted : Option String}
  {flights : Multiset Flight} {token : Token} {deviceId : String} {adapter : AdapterId}

theorem Readied.unready : Readied wallet wanted flights before (connection, .finished false) where
  waiting _ _ waits := by cases waits
  takes _ _ _ _ _ waits := by cases waits
  ready ready := by cases ready

omit [AdapterBench Bench] in
theorem held?_of_session {next : Connection Bench} (session : next.session = connection.session) :
    next.held? = connection.held? := by
  simp only [held?, session]

omit [AdapterBench Bench] in
theorem verifyAnswered_ready {answer : AdapterAnswer}
    (ready : (connection.verifyAnswered token wallet answer).2 = true) :
    connection.interruption? token = none ∧ answer = .ok true ∧
      (connection.verifyAnswered token wallet answer).1 = connection.publish .ready := by
  simp only [verifyAnswered] at ready ⊢
  cases interrupted : connection.interruption? token with
  | some outcome =>
      rw [interrupted] at ready
      cases ready
  | none =>
      rw [interrupted] at ready
      rcases answer with error | _ | _
      · cases ready
      · cases ready
      · exact ⟨rfl, rfl, rfl⟩

theorem isVerified_of_answer {answered : Connection Bench} {answer : AdapterAnswer}
    (isFor : (⟨token, wallet, some deviceId, some adapter⟩ : Lease).IsFor wallet wanted)
    (stands : (⟨token, wallet, some deviceId, some adapter⟩ : Lease).Stands answered flights)
    (confirms : answer = .ok true → before.Confirms adapter deviceId (answered.publish .ready))
    (ready : (answered.verifyAnswered token wallet answer).2 = true) :
    IsVerified wallet wanted token deviceId adapter before
      (answered.verifyAnswered token wallet answer).1 := by
  obtain ⟨leads, said, shown⟩ := verifyAnswered_ready ready
  obtain ⟨live, current⟩ := interruption?_eq_none.mp leads
  obtain ⟨owner, device, held⟩ := stands.session current
  rw [shown]
  constructor
  case shown => exact answered.publish_state (.inr nofun) rfl
  case live => simpa using live
  case wallet => simpa using owner
  case device => simpa using device
  case wanted => exact fun id want => Option.some.inj (isFor.device id want)
  case token => simpa using current
  case held => simpa using held
  case confirmed => exact confirms said

theorem verify_readied
    (isFor : (⟨token, wallet, some deviceId, some adapter⟩ : Lease).IsFor wallet wanted)
    (stands : (⟨token, wallet, some deviceId, some adapter⟩ : Lease).Stands connection flights)
    (held : connection.held? = some (token, deviceId, adapter)) :
    Readied wallet wanted flights connection
      (connection.verify token wallet deviceId adapter) := by
  have session := connection.ask_session adapter (.verify deviceId)
  have tokens := connection.ask_lastToken adapter (.verify deviceId)
  simp only [verify]
  rcases asked : connection.ask adapter (.verify deviceId) with ⟨later, reply⟩
  rw [asked] at session tokens
  have kept := (held?_of_session session).trans held
  have stays := stands.of_session session tokens
  cases reply with
  | later milliseconds =>
      constructor
      case waiting =>
        intro call _ waits
        cases waits
        exact ⟨rfl, isFor, stays⟩
      case takes =>
        intro _ _ _ _ _ waits
        cases waits
        exact kept
      case ready =>
        intro finished
        cases finished
  | now answer =>
      constructor
      case waiting =>
        intro _ _ waits
        cases waits
      case takes =>
        intro _ _ _ _ _ waits
        cases waits
      case ready =>
        intro finished
        have ready : (later.verifyAnswered token wallet answer).2 = true :=
          Progress.finished.inj finished
        refine ⟨token, deviceId, adapter, ?_, ?_⟩
        · refine isVerified_of_answer isFor stays ?_ ready
          rintro rfl
          exact .atOnce asked
        · exact (held?_of_session (later.verifyAnswered_session token wallet answer)).trans kept

theorem verifyConnected_readied {progress : AttemptProgress}
    (attempted : Attempted wallet wanted flights (connection, progress)) :
    Readied wallet wanted flights connection (connection.verifyConnected wallet progress) := by
  cases progress with
  | waiting call milliseconds =>
      refine ⟨?_, nofun, nofun⟩
      intro next _ waits
      cases waits
      obtain ⟨isFor, stands⟩ := attempted.waiting call milliseconds rfl
      exact ⟨rfl, isFor, stands⟩
  | finished outcome =>
      cases outcome with
      | superseded | aborted | failed _ => exact .unready
      | connected =>
          obtain ⟨lease, isFor, stands, current⟩ := attempted.connected rfl
          simp only [verifyConnected, ConnectOutcome.isConnected, if_true]
          split
          next => exact .unready
          next token deviceId adapter held =>
            obtain ⟨holding, owned, located⟩ := held?_eq_some.mp held
            have same : lease.token = token := Option.some.inj (current.symm.trans owned)
            obtain ⟨owner, device, _⟩ := stands.session current
            refine verify_readied ⟨rfl, ?_⟩ ⟨same ▸ stands.issued, same ▸ stands.alone, ?_⟩ held
            · intro id want
              exact located.symm.trans (device.trans (isFor.device id want))
            · exact fun _ => ⟨isFor.wallet ▸ owner, located, .inl holding⟩

theorem readiness_held {wanted : Option String}
    (ready : connection.readiness wallet wanted = .held token deviceId adapter) :
    connection.cancelled = false ∧ connection.held? = some (token, deviceId, adapter) ∧
      connection.session.wallet = some wallet ∧ ∀ id, wanted = some id → deviceId = id := by
  have held := held?_of_readiness ready
  simp only [readiness, held] at ready
  split at ready
  next => cases ready
  next live =>
    split at ready
    next fits =>
      simp only [Bool.and_eq_true, beq_iff_eq] at fits
      refine ⟨by simpa using live, held, fits.1.2, ?_⟩
      rintro id rfl
      have same : id = deviceId := by simpa using fits.2
      exact same.symm
    next => cases ready

theorem readiness_wanting {target : Option String}
    (ready : connection.readiness wallet wanted = .wanting target) :
    connection.cancelled = false ∧ target = (wanted <|> connection.session.deviceId) := by
  simp only [readiness] at ready
  split at ready
  next => cases ready
  next live =>
    refine ⟨by simpa using live, ?_⟩
    split at ready
    · cases ready
      rfl
    · split at ready
      · cases ready
      · cases ready
        rfl

theorem verification_ready (connection : Connection Bench)
    (isFor : (⟨token, wallet, some deviceId, some adapter⟩ : Lease).IsFor wallet wanted)
    (stands : (⟨token, wallet, some deviceId, some adapter⟩ : Lease).Stands connection flights)
    (finished : (connection.resumeReadiness (.verifying token wallet deviceId adapter)).2 =
      .finished true) :
    IsVerified wallet wanted token deviceId adapter connection
      (connection.resumeReadiness (.verifying token wallet deviceId adapter)).1 := by
  have ready := Progress.finished.inj finished
  have waited := stands.of_session (connection.await_session adapter (.verify deviceId))
    (connection.await_lastToken adapter (.verify deviceId))
  refine isVerified_of_answer isFor waited ?_ ready
  intro said
  exact .afterDelay (Prod.ext rfl said)

theorem resumeReadiness_readied {owner : Wallet} {call : AttemptCall}
    (serves : (ReadinessCall.attempting owner call).Serves wallet wanted connection flights) :
    Readied wallet wanted flights (connection.resumeAttempt call).1
      (connection.resumeReadiness (.attempting owner call)) := by
  cases serves.caller
  exact verifyConnected_readied (resumeAttempt_attempted serves.isFor serves.stands)

end Connection

theorem Led.search_free {session : Session} {flights : Multiset Flight} {token : Token}
    {adapter : AdapterId} (led : Led session flights) (held : session.adapter = some adapter)
    (current : session.token = some token) : .attempt token none ∉ flights := by
  intro member
  have leads : .attempt token none ∈ owners flights token := mem_owners.mpr ⟨member, rfl, rfl⟩
  cases led with
  | idle _ noAdapter _ => cases noAdapter.symm.trans held
  | searching _ _ noAdapter _ _ _ => cases noAdapter.symm.trans held
  | connecting _ _ same _ _ _ alone _ | leaving _ _ same _ alone =>
      cases same.symm.trans current
      rw [alone] at leads
      cases Multiset.mem_singleton.mp leads
  | connected _ _ same _ _ _ _ alone _ =>
      cases same.symm.trans current
      rw [alone] at leads
      cases leads

theorem Led.leaving_of_bare {session : Session} {flights : Multiset Flight} {token : Token}
    (led : Led session flights) (current : session.token = some token)
    (noAdapter : session.adapter = none) (alone : .attempt token none ∉ flights) :
    ∃ adapter, .disconnect token adapter ∈ flights := by
  cases led with
  | idle noToken _ _ => cases noToken.symm.trans current
  | connecting _ _ _ held _ _ _ _ => cases noAdapter.symm.trans held
  | connected _ _ _ held _ _ _ _ _ => cases noAdapter.symm.trans held
  | searching _ same _ _ owner _ =>
      cases same.symm.trans current
      exact absurd (mem_of_owners_eq owner).1 alone
  | leaving _ adapter same _ owner =>
      cases same.symm.trans current
      exact ⟨adapter, (mem_of_owners_eq owner).1⟩

namespace Run

variable {evolves : Bench → Bench → Prop} {wallet : Wallet} {wanted : Option String}
  {first run : Run Bench} {stage : ReadinessStage}

/-- One call to make a device ready, that the first run has asked for. The run that it has come to
holds all the other calls. -/
inductive Readying (evolves : Bench → Bench → Prop) (wallet : Wallet) (wanted : Option String)
    (first : Run Bench) : Run Bench → ReadinessStage → Prop where
  | asked (found : DeviceSearch) (milliseconds : Nat) :
      Readying evolves wallet wanted first first (.asks found milliseconds)
  | goesOn {run : Run Bench} {stage : ReadinessStage} {call : ReadinessCall}
      {milliseconds : Nat} :
      Readying evolves wallet wanted first run stage →
      (run.connection.readyStep wallet wanted stage).2 = .waiting call milliseconds →
      Readying evolves wallet wanted first
        { run with connection := (run.connection.readyStep wallet wanted stage).1 }
        (.waits call)
  | meanwhile {before after : Run Bench} {call : ReadinessCall} :
      Readying evolves wallet wanted first before (.waits call) → Step evolves before after →
      Readying evolves wallet wanted first after (.waits call)

omit [AdapterBench Bench] in
def beside (run : Run Bench) : ReadinessStage → Run Bench
  | .asks _ _ => run
  | .waits call => { run with calls := .readiness call ::ₘ run.calls }

theorem step_readyStep (run : Run Bench) (wallet : Wallet) (wanted : Option String)
    (stage : ReadinessStage) :
    Step evolves (run.beside stage)
      ⟨(run.connection.readyStep wallet wanted stage).1,
        (run.connection.readyStep wallet wanted stage).2.calls.map .readiness + run.calls,
        run.isOver⟩ := by
  cases stage with
  | asks found milliseconds =>
      have begun : Step evolves run (run.begin (.makeReady wallet wanted found milliseconds)) :=
        .begin run _
      simp only [Run.begin, Connection.begin, Prod.map_fst, Prod.map_snd, id_eq,
        Progress.calls_map] at begun
      exact begun
  | waits call =>
      have resumed : Step evolves (run.beside (.waits call)) _ :=
        .resume run.connection (.readiness call) run.calls run.isOver
      simp only [Connection.resume, Prod.map_fst, Prod.map_snd, id_eq,
        Progress.calls_map] at resumed
      exact resumed

theorem step_waiting {call : ReadinessCall} {milliseconds : Nat}
    (waits : (run.connection.readyStep wallet wanted stage).2 = .waiting call milliseconds) :
    Step evolves (run.beside stage)
      (beside { run with connection := (run.connection.readyStep wallet wanted stage).1 }
        (.waits call)) := by
  have step : Step evolves (run.beside stage) _ := run.step_readyStep wallet wanted stage
  rw [waits] at step
  exact step

theorem step_finished {ready : Bool}
    (finished : (run.connection.readyStep wallet wanted stage).2 = .finished ready) :
    Step evolves (run.beside stage)
      { run with connection := (run.connection.readyStep wallet wanted stage).1 } := by
  have step : Step evolves (run.beside stage) _ := run.step_readyStep wallet wanted stage
  rw [finished] at step
  simpa only [Progress.calls, Multiset.map_zero, Multiset.zero_add] using step

theorem Readying.steps (readying : Readying evolves wallet wanted first run stage) :
    Steps evolves first (run.beside stage) := by
  induction readying with
  | asked _ _ => exact .refl
  | goesOn _ waits ih => exact ih.tail (step_waiting waits)
  | meanwhile _ step ih => exact ih.tail (step.along _)

variable [FreshBench Bench]

theorem makeReady_readied (reachable : run.Reachable FreshBench.evolves) (found : DeviceSearch)
    (milliseconds : Nat) :
    Connection.Readied wallet wanted run.situation.flights
      (run.connection.atVerification wallet wanted (.asks found milliseconds))
      (run.connection.makeReady wallet wanted found milliseconds) := by
  cases ready : run.connection.readiness wallet wanted with
  | refused =>
      simp only [Connection.makeReady, ready]
      exact .unready
  | held token deviceId adapter =>
      simp only [Connection.makeReady, Connection.atVerification, ready]
      obtain ⟨live, held, owner, wants⟩ := Connection.readiness_held ready
      obtain ⟨holding, current, located⟩ := Connection.held?_eq_some.mp held
      have sound := reachable.sound live
      refine Connection.verify_readied ⟨rfl, ?_⟩ ⟨?_, ?_, ?_⟩ held
      · exact fun id want => congrArg some (wants id want)
      · exact (sound.issued.session token current).le
      · exact sound.led.search_free holding current
      · exact fun _ => ⟨owner, located, .inl holding⟩
  | wanting target =>
      simp only [Connection.makeReady, Connection.atVerification, ready]
      obtain ⟨live, rfl⟩ := Connection.readiness_wanting ready
      refine Connection.verifyConnected_readied (Connection.connect_attempted ?_ ?_)
      · intro member
        have issued := (reachable.sound live).issued.flights _ member
        exact Nat.not_succ_le_self _ issued
      · rintro id rfl
        rfl

theorem readyStep_readied (reachable : (run.beside stage).Reachable FreshBench.evolves)
    (serves : ∀ call, stage = .waits call →
      call.Serves wallet wanted run.connection run.situation.flights)
    (unverified : ∀ token owner deviceId adapter,
      stage ≠ .waits (.verifying token owner deviceId adapter)) :
    Connection.Readied wallet wanted run.situation.flights
      (run.connection.atVerification wallet wanted stage)
      (run.connection.readyStep wallet wanted stage) := by
  rcases stage with ⟨found, milliseconds⟩ | (⟨owner, call⟩ | ⟨token, owner, deviceId, adapter⟩)
  · exact makeReady_readied reachable found milliseconds
  · exact Connection.resumeReadiness_readied (serves _ rfl)
  · exact absurd rfl (unverified token owner deviceId adapter)

namespace Readying

theorem serves (readying : Readying FreshBench.evolves wallet wanted first run stage)
    (reachable : first.Reachable FreshBench.evolves) (call : ReadinessCall)
    (waiting : stage = .waits call) :
    call.Serves wallet wanted run.connection run.situation.flights := by
  induction readying generalizing call with
  | asked _ _ => cases waiting
  | @goesOn run stage next milliseconds earlier waits ih =>
      cases waiting
      have reached : (run.beside stage).Reachable FreshBench.evolves :=
        reachable.imp fun _ steps => steps.trans earlier.steps
      have readied := readyStep_readied reached ih (by rintro _ _ _ _ rfl; cases waits)
      exact readied.waiting next milliseconds waits
  | @meanwhile before after next _ step ih =>
      cases waiting
      obtain ⟨caller, isFor, stands⟩ := ih next rfl
      exact ⟨caller, isFor, step.stands FreshBench.serves stands⟩

theorem taken {token : Token} {owner : Wallet} {deviceId : String} {adapter : AdapterId}
    (readying : Readying FreshBench.evolves wallet wanted first run stage)
    (reachable : first.Reachable FreshBench.evolves)
    (waiting : stage = .waits (.verifying token owner deviceId adapter)) :
    ∃ taken, Steps FreshBench.evolves first taken ∧
      Steps FreshBench.evolves taken (run.beside stage) ∧
        taken.connection.held? = some (token, deviceId, adapter) := by
  induction readying with
  | asked _ _ => cases waiting
  | @goesOn run stage next milliseconds earlier waits ih =>
      cases waiting
      have reached : (run.beside stage).Reachable FreshBench.evolves :=
        reachable.imp fun _ steps => steps.trans earlier.steps
      have readied := readyStep_readied reached (earlier.serves reachable)
        (by rintro _ _ _ _ rfl; cases waits)
      exact ⟨_, earlier.steps.tail (step_waiting waits), .refl,
        readied.takes token owner deviceId adapter milliseconds waits⟩
  | meanwhile _ step ih =>
      obtain ⟨taken, before, after, held⟩ := ih waiting
      exact ⟨taken, before, after.tail (step.along _), held⟩

end Readying

/-- Whoever is told that a device is ready is told so at once when its adapter has said so, with
the session on the wallet and the device that were asked for, under the token with which that
adapter was taken from the session. The session still holds this adapter, unless a disconnect
under the same token has let go of it and is not over. A call whose session was taken over answers
that nothing is ready, and shows nothing. -/
theorem ready_only_when_verified (reachable : first.Reachable FreshBench.evolves)
    (readying : Readying FreshBench.evolves wallet wanted first run stage) {ready : Bool}
    (finished : (run.connection.readyStep wallet wanted stage).2 = .finished ready) :
    (ready = true → ∃ token deviceId adapter,
      Connection.IsVerified wallet wanted token deviceId adapter
        (run.connection.atVerification wallet wanted stage)
        (run.connection.readyStep wallet wanted stage).1 ∧
      (∃ taken, Steps FreshBench.evolves first taken ∧
        Steps FreshBench.evolves taken
          { run with connection := (run.connection.readyStep wallet wanted stage).1 } ∧
        taken.connection.held? = some (token, deviceId, adapter)) ∧
      ((run.connection.readyStep wallet wanted stage).1.session.adapter = none →
        ∃ other, .disconnect token other ∈ run.situation.flights)) ∧
    (∀ call, stage = .waits call →
      run.connection.session.token ≠ some (ConnectionCall.readiness call).token →
        ready = false ∧
          (run.connection.readyStep wallet wanted stage).1.published =
            run.connection.published) := by
  have ended : Step FreshBench.evolves (run.beside stage)
      { run with connection := (run.connection.readyStep wallet wanted stage).1 } :=
    step_finished finished
  have reached : (run.beside stage).Reachable FreshBench.evolves :=
    reachable.imp fun _ steps => steps.trans readying.steps
  have serves := readying.serves reachable
  constructor
  · rintro rfl
    by_cases verifies : ∃ token owner deviceId adapter,
        stage = .waits (.verifying token owner deviceId adapter)
    · obtain ⟨token, owner, deviceId, adapter, rfl⟩ := verifies
      obtain ⟨rfl, isFor, stands⟩ := serves _ rfl
      obtain ⟨taken, before, after, held⟩ := readying.taken reachable rfl
      have verified := run.connection.verification_ready isFor stands finished
      refine ⟨token, deviceId, adapter, verified, ⟨taken, before, after.tail ended, held⟩, ?_⟩
      intro noAdapter
      obtain ⟨bench, steps⟩ := reached
      have later : Reachable FreshBench.evolves
          { run with connection := (run.connection.readyStep _ wanted _).1 } :=
        ⟨bench, steps.tail ended⟩
      have led := (later.sound verified.live).led
      exact led.leaving_of_bare verified.token noAdapter stands.alone
    · have readied := readyStep_readied reached serves
        fun token owner deviceId adapter same =>
          verifies ⟨token, owner, deviceId, adapter, same⟩
      obtain ⟨token, deviceId, adapter, verified, held⟩ := readied.ready finished
      have holding := (Connection.held?_eq_some.mp held).1
      refine ⟨token, deviceId, adapter, verified, ⟨_, readying.steps.tail ended, .refl, held⟩, ?_⟩
      intro noAdapter
      cases noAdapter.symm.trans holding
  · rintro call rfl stale
    obtain ⟨spares, unready⟩ := Connection.resumeReadiness_spares stale
    refine ⟨?_, spares.published⟩
    exact Progress.finished.inj (finished.symm.trans unready)

def leavingTwice : Run ScriptedBench :=
  let opened := (start { scripts := [{ disconnectDelay := 10, verifyDelay := 7 }] }).begin
    (.connect .ledger (.device "left"))
  (opened.begin .disconnect).begin .disconnect

def askedToBeReady : Connection ScriptedBench :=
  (leavingTwice.connection.readyStep .ledger (some "left") (.asks (.ok none) 0)).1

/-- The earlier disconnect is over and has destroyed the adapter while that is being verified. -/
def leftOnce : Run ScriptedBench :=
  { connection := (askedToBeReady.resume (.disconnect ⟨2, 0⟩)).1
    calls := (askedToBeReady.resume (.disconnect ⟨2, 0⟩)).2.calls + {.disconnect ⟨3, 0⟩} }

theorem leavingTwice_reachable : leavingTwice.Reachable FreshBench.evolves :=
  ⟨_, .tail (.tail (.tail .refl (.begin _ _)) (.begin _ _)) (.begin _ _)⟩

theorem leftOnce_readying :
    Readying FreshBench.evolves .ledger (some "left") leavingTwice leftOnce
      (.waits (.verifying 3 .ledger "left" 0)) := by
  have calls : leavingTwice.calls = .disconnect ⟨2, 0⟩ ::ₘ {.disconnect ⟨3, 0⟩} := by
    have both : leavingTwice.calls = {.disconnect ⟨3, 0⟩} + ({.disconnect ⟨2, 0⟩} + 0) := rfl
    rw [both, Multiset.add_zero, Multiset.add_comm, Multiset.singleton_add]
  have asked : Readying FreshBench.evolves .ledger (some "left") leavingTwice
      ⟨askedToBeReady, leavingTwice.calls, false⟩ (.waits (.verifying 3 .ledger "left" 0)) :=
    .goesOn (.asked (.ok none) 0) (rfl : _ = Progress.waiting _ 7)
  rw [calls] at asked
  exact .meanwhile asked (.resume askedToBeReady (.disconnect ⟨2, 0⟩) _ false)

theorem ready_only_when_verified_leftOnce :
    ∃ next, leftOnce.connection.readyStep .ledger (some "left")
        (.waits (.verifying 3 .ledger "left" 0)) = (next, .finished true) ∧
      next.session.adapter = none ∧
      (∃ token deviceId adapter,
        Connection.IsVerified .ledger (some "left") token deviceId adapter leftOnce.connection
          next) ∧
      ∃ other, .disconnect 3 other ∈ leftOnce.situation.flights := by
  refine ⟨_, rfl, rfl, ?_⟩
  have finished : (leftOnce.connection.readyStep .ledger (some "left")
      (.waits (.verifying 3 .ledger "left" 0))).2 = .finished true := rfl
  obtain ⟨told, _⟩ := ready_only_when_verified leavingTwice_reachable leftOnce_readying finished
  obtain ⟨token, deviceId, adapter, verified, _, leaving⟩ := told rfl
  have same : token = 3 := (Option.some.inj verified.token).symm
  exact ⟨⟨token, deviceId, adapter, verified⟩, same ▸ leaving rfl⟩

theorem ready_without_adapter :
    ¬∀ (first run : Run ScriptedBench) (stage : ReadinessStage),
      first.Reachable FreshBench.evolves →
        Readying FreshBench.evolves .ledger (some "left") first run stage →
          (run.connection.readyStep .ledger (some "left") stage).2 = .finished true →
            (run.connection.readyStep .ledger (some "left") stage).1.session.adapter.isSome := by
  intro always
  have held := always leavingTwice leftOnce _ leavingTwice_reachable leftOnce_readying rfl
  cases held

end Run

end SignerLink
