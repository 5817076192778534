import SignerLink.Proofs.Connection.Move
/-!
Every step of a connection is made of moves, whatever adapters do and whenever they answer.
-/

namespace SignerLink

/-- The relation allows whatever adapters do when they are asked for something. -/
structure Serves {Bench : Type} [AdapterBench Bench] (evolves : Bench → Bench → Prop) : Prop where
  trans : ∀ {first second third}, evolves first second → evolves second third →
    evolves first third
  begins : ∀ bench adapter request, evolves bench (AdapterBench.begin bench adapter request).1
  finishes : ∀ bench adapter request, evolves bench (AdapterBench.finish bench adapter request).1
  refuses : ∀ {bench wallet token next error},
    AdapterBench.create bench wallet token = (next, .error error) → evolves bench next

def ConnectOutcome.shown? : ConnectOutcome → Option Unbacked
  | .failed error => some (.lost error)
  | .connected | .superseded | .aborted => none

namespace Progress

variable {Call Outcome : Type}

def outcome? : Progress Call Outcome → Option Outcome
  | .waiting _ _ => none
  | .finished outcome => some outcome

@[simp] theorem map_calls_waiting (flight : Call → Flight) (call : Call) (milliseconds : Nat)
    (flights : Multiset Flight) :
    (waiting call milliseconds : Progress Call Outcome).calls.map flight + flights =
      flight call ::ₘ flights := by
  rw [calls, Multiset.map_singleton, Multiset.singleton_add]

@[simp] theorem map_calls_finished (flight : Call → Flight) (outcome : Outcome)
    (flights : Multiset Flight) :
    (finished outcome : Progress Call Outcome).calls.map flight + flights = flights := by
  rw [calls, Multiset.map_zero, Multiset.zero_add]

@[simp] theorem calls_map {OtherCall OtherOutcome : Type} (wrap : Call → OtherCall)
    (report : Outcome → OtherOutcome) (progress : Progress Call Outcome) :
    (progress.map wrap report).calls = progress.calls.map wrap := by
  cases progress <;> rfl

end Progress

variable {Bench : Type} [AdapterBench Bench]

namespace Connection

def attemptShown? (progress : Connection.AttemptProgress) : Option Unbacked :=
  progress.outcome?.bind ConnectOutcome.shown?

end Connection

theorem Serves.asks {evolves : Bench → Bench → Prop} (serves : Serves evolves) (bench : Bench)
    (adapter : AdapterId) (request : AdapterRequest) :
    evolves bench (AdapterBench.ask bench adapter request).1 := by
  have began := serves.begins bench adapter request
  simp only [AdapterBench.ask]
  split
  next asked =>
    rw [asked] at began
    exact serves.trans began (serves.finishes _ adapter request)
  next => exact began

/-! What a step shows without an adapter. -/

def ConnectionRequest.shown? (connection : Connection Bench) :
    ConnectionRequest → Option Unbacked
  | .connect wallet target => Connection.attemptShown? (connection.connect wallet target).2
  | .makeReady wallet wanted found milliseconds =>
      match connection.readiness wallet wanted with
      | .wanting deviceId =>
          Connection.attemptShown?
            (connection.connect wallet (.wanted deviceId found milliseconds)).2
      | .refused | .held _ _ _ => none
  | .disconnect | .operate _ => none

def ConnectionCall.shown? (connection : Connection Bench) : ConnectionCall → Option Unbacked
  | .attempt call | .readiness (.attempting _ call) =>
      Connection.attemptShown? (connection.resumeAttempt call).2
  | .readiness (.verifying _ _ _ _) | .disconnect _ | .operation _ => none

def ConnectionEvent.shown? (connection : Connection Bench) : ConnectionEvent → Option Unbacked
  | .lost error => connection.lossShown? error
  | .noticed token notice => connection.noticeShown? token notice
  | .pump =>
      connection.inbox.head?.bind fun signal =>
        connection.noticeShown? signal.token signal.notice
  | .reset | .teardown | .cancel | .clearError | .closeInbox => none

namespace Connection

variable {evolves : Bench → Bench → Prop} {connection : Connection Bench} {token : Token}
  {flights : Multiset Flight} {isOver : Bool}

omit [AdapterBench Bench] in
theorem interruption?_eq_none :
    connection.interruption? token = none ↔
      connection.cancelled = false ∧ connection.session.token = some token := by
  simp only [interruption?]
  split
  next ended => simp [ended]
  next live =>
    split
    next stale => simp [stale]
    next current => simp_all

omit [AdapterBench Bench] in
theorem interruption?_shown {outcome : ConnectOutcome}
    (interrupted : connection.interruption? token = some outcome) : outcome.shown? = none := by
  simp only [interruption?] at interrupted
  split at interrupted
  · cases interrupted; rfl
  · split at interrupted
    · cases interrupted; rfl
    · cases interrupted

/-! Requests to adapters. -/

theorem ask_serves (serves : Serves evolves) (situation : Situation Bench) (adapter : AdapterId)
    (request : AdapterRequest) :
    Move evolves situation none
      { situation with connection := (situation.connection.ask adapter request).1 } :=
  .serve _ _ (serves.asks situation.connection.bench adapter request)

theorem await_serves (serves : Serves evolves) (adapter : AdapterId) (request : AdapterRequest) :
    Move evolves ⟨connection, flights, isOver⟩ none
      ⟨(connection.await adapter request).1, flights, isOver⟩ :=
  .serve _ _ (serves.finishes connection.bench adapter request)

/-! Attempts. -/

theorem connectAnswered_moves (wallet : Wallet) (adapter : AdapterId) (answer : AdapterAnswer) :
    Moves evolves ⟨connection, .attempt token (some adapter) ::ₘ flights, isOver⟩
      (connection.connectAnswered token wallet adapter answer).2.shown?
      ⟨(connection.connectAnswered token wallet adapter answer).1, flights, isOver⟩ := by
  simp only [connectAnswered]
  split
  next outcome interrupted =>
    rw [interruption?_shown interrupted]
    exact .one (.discard (by rw [interrupted]; rfl))
  next current =>
    cases answer with
    | error error => exact .one (.fail _ current)
    | ok _ => exact .one (.connect current)

theorem openAdapter_moves (serves : Serves evolves) (wallet : Wallet) (deviceId : String)
    (current : connection.interruption? token = none) :
    Moves evolves ⟨connection, .attempt token none ::ₘ flights, isOver⟩
      (attemptShown? (connection.openAdapter token wallet deviceId).2)
      ⟨(connection.openAdapter token wallet deviceId).1,
        (connection.openAdapter token wallet deviceId).2.calls.map AttemptCall.flight + flights,
        isOver⟩ := by
  refine .next (.locate deviceId current) ?_
  simp only [openAdapter]
  split
  next bench error refused =>
    rw [Progress.map_calls_finished]
    refine .next (.serve bench [] (serves.refuses refused)) ?_
    rw [deliver_nil]
    exact .one (.fail error current)
  next bench adapter created =>
    refine .next (.install wallet current rfl created) ?_
    generalize opened : setSession { setSession connection _ with bench := bench } _ = next
    rcases asked : next.ask adapter (.connect deviceId) with ⟨later, reply⟩
    have served := ask_serves serves ⟨next, .attempt token (some adapter) ::ₘ flights, isOver⟩
      adapter (.connect deviceId)
    rw [asked] at served
    cases reply with
    | later milliseconds =>
        rw [Progress.map_calls_waiting]
        exact .one served
    | now answer =>
        rw [Progress.map_calls_finished]
        exact .next served (connectAnswered_moves wallet adapter answer)

theorem searched_moves (serves : Serves evolves) (wallet : Wallet) (found : DeviceSearch) :
    Moves evolves ⟨connection, .attempt token none ::ₘ flights, isOver⟩
      (attemptShown? (connection.searched token wallet found).2)
      ⟨(connection.searched token wallet found).1,
        (connection.searched token wallet found).2.calls.map AttemptCall.flight + flights,
        isOver⟩ := by
  simp only [searched]
  split
  next outcome interrupted =>
    rw [attemptShown?, Progress.outcome?, Option.bind_some, interruption?_shown interrupted,
      Progress.map_calls_finished]
    exact .one (.giveWay (by rw [interrupted]; rfl))
  next current =>
    split
    next deviceId => exact openAdapter_moves serves wallet deviceId current
    next =>
      rw [Progress.map_calls_finished]
      exact .one (.fail _ current)
    next error =>
      rw [Progress.map_calls_finished]
      exact .one (.fail _ current)

theorem beginAttempt_current (wallet : Wallet) (deviceId : Option String)
    (live : connection.cancelled = false) :
    (connection.beginAttempt wallet deviceId).1.interruption? (connection.lastToken + 1) =
      none := by
  simp [interruption?_eq_none, beginAttempt, allocate, live]

theorem connect_moves (serves : Serves evolves) (wallet : Wallet) (target : Target) :
    Moves evolves ⟨connection, flights, isOver⟩ (attemptShown? (connection.connect wallet target).2)
      ⟨(connection.connect wallet target).1,
        (connection.connect wallet target).2.calls.map AttemptCall.flight + flights, isOver⟩ := by
  simp only [connect]
  split
  next cancelled =>
    rw [Progress.map_calls_finished]
    exact .done _
  next live =>
    have live : connection.cancelled = false := by simpa using live
    split
    next deviceId =>
      exact .next (.takeOver wallet (some deviceId) live)
        (openAdapter_moves serves wallet deviceId (beginAttempt_current wallet _ live))
    next found milliseconds =>
      refine .next (.takeOver wallet none live) ?_
      split
      next => exact searched_moves serves wallet found
      next =>
        rw [Progress.map_calls_waiting]
        exact .done _

theorem resumeAttempt_moves (serves : Serves evolves) (call : AttemptCall) :
    Moves evolves ⟨connection, call.flight ::ₘ flights, isOver⟩
      (attemptShown? (connection.resumeAttempt call).2)
      ⟨(connection.resumeAttempt call).1,
        (connection.resumeAttempt call).2.calls.map AttemptCall.flight + flights, isOver⟩ := by
  cases call with
  | searching token wallet found => exact searched_moves serves wallet found
  | connecting token wallet deviceId adapter =>
      simp only [resumeAttempt]
      rw [Progress.map_calls_finished]
      exact .next (await_serves serves adapter (.connect deviceId))
        (connectAnswered_moves wallet adapter _)

/-! Readiness. -/

omit [AdapterBench Bench] in
theorem held?_eq_some {deviceId : String} {adapter : AdapterId} :
    connection.held? = some (token, deviceId, adapter) ↔
      connection.session.adapter = some adapter ∧ connection.session.token = some token ∧
        connection.session.deviceId = some deviceId := by
  simp only [held?, Option.bind_eq_bind, Option.bind_eq_some_iff]
  constructor
  · rintro ⟨_, adapterEq, _, tokenEq, _, deviceEq, found⟩
    cases found
    exact ⟨adapterEq, tokenEq, deviceEq⟩
  · rintro ⟨adapterEq, tokenEq, deviceEq⟩
    exact ⟨_, adapterEq, _, tokenEq, _, deviceEq, rfl⟩

theorem verify_moves (serves : Serves evolves) (wallet : Wallet) (deviceId : String)
    (adapter : AdapterId) (holding : connection.session.adapter.isSome)
    (current : connection.session.token = some token) :
    Moves evolves ⟨connection, flights, isOver⟩ none
      ⟨(connection.verify token wallet deviceId adapter).1,
        (connection.verify token wallet deviceId adapter).2.calls.map ReadinessCall.flight +
          flights,
        isOver⟩ := by
  refine .next (.hold holding current) ?_
  have served := ask_serves serves ⟨connection, .verification token ::ₘ flights, isOver⟩ adapter
    (.verify deviceId)
  simp only [verify]
  rcases asked : connection.ask adapter (.verify deviceId) with ⟨later, reply⟩
  rw [asked] at served
  cases reply with
  | later milliseconds =>
      rw [Progress.map_calls_waiting]
      exact .one served
  | now answer =>
      rw [Progress.map_calls_finished]
      exact .next served (.one (.verify wallet answer))

theorem verifyConnected_moves (serves : Serves evolves) (wallet : Wallet)
    {before : Situation Bench} {progress : AttemptProgress}
    (attempted : Moves evolves before (attemptShown? progress)
      ⟨connection, progress.calls.map AttemptCall.flight + flights, isOver⟩) :
    Moves evolves before (attemptShown? progress)
      ⟨(connection.verifyConnected wallet progress).1,
        (connection.verifyConnected wallet progress).2.calls.map ReadinessCall.flight + flights,
        isOver⟩ := by
  cases progress with
  | waiting call milliseconds => simpa [verifyConnected, ReadinessCall.flight] using attempted
  | finished outcome =>
      rw [Progress.map_calls_finished] at attempted
      cases outcome with
      | superseded | aborted | failed _ =>
          simpa [verifyConnected, ConnectOutcome.isConnected] using attempted
      | connected =>
          simp only [verifyConnected, ConnectOutcome.isConnected, if_true]
          split
          next => simpa using attempted
          next token deviceId adapter held =>
            have session := held?_eq_some.mp held
            exact attempted.append
              (verify_moves serves wallet deviceId adapter (by simp [session.1]) session.2.1)

theorem connectReady_moves (serves : Serves evolves) (wallet : Wallet) (target : Target) :
    Moves evolves ⟨connection, flights, isOver⟩ (attemptShown? (connection.connect wallet target).2)
      ⟨(connection.connectReady wallet target).1,
        (connection.connectReady wallet target).2.calls.map ReadinessCall.flight + flights,
        isOver⟩ :=
  verifyConnected_moves serves wallet (connect_moves serves wallet target)

theorem held?_of_readiness {wallet : Wallet} {wanted : Option String} {deviceId : String}
    {adapter : AdapterId}
    (ready : connection.readiness wallet wanted = .held token deviceId adapter) :
    connection.held? = some (token, deviceId, adapter) := by
  simp only [readiness] at ready
  split at ready
  · cases ready
  · split at ready
    · cases ready
    · split at ready
      · cases ready; assumption
      · cases ready

theorem makeReady_moves (serves : Serves evolves) (wallet : Wallet) (wanted : Option String)
    (found : DeviceSearch) (milliseconds : Nat) :
    Moves evolves ⟨connection, flights, isOver⟩
      (ConnectionRequest.shown? connection (.makeReady wallet wanted found milliseconds))
      ⟨(connection.makeReady wallet wanted found milliseconds).1,
        (connection.makeReady wallet wanted found milliseconds).2.calls.map
          ReadinessCall.flight + flights,
        isOver⟩ := by
  cases ready : connection.readiness wallet wanted with
  | refused =>
      simp only [makeReady, ConnectionRequest.shown?, ready, Progress.map_calls_finished]
      exact .done _
  | held token deviceId adapter =>
      have session := held?_eq_some.mp (held?_of_readiness ready)
      simp only [makeReady, ConnectionRequest.shown?, ready]
      exact verify_moves serves wallet deviceId adapter (by simp [session.1]) session.2.1
  | wanting deviceId =>
      simp only [makeReady, ConnectionRequest.shown?, ready]
      exact connectReady_moves serves wallet _

theorem resumeReadiness_moves (serves : Serves evolves) (call : ReadinessCall) :
    Moves evolves ⟨connection, call.flight ::ₘ flights, isOver⟩
      (ConnectionCall.shown? connection (.readiness call))
      ⟨(connection.resumeReadiness call).1,
        (connection.resumeReadiness call).2.calls.map ReadinessCall.flight + flights, isOver⟩ := by
  cases call with
  | attempting wallet call =>
      exact verifyConnected_moves serves wallet (resumeAttempt_moves serves call)
  | verifying token wallet deviceId adapter =>
      simp only [resumeReadiness]
      rw [Progress.map_calls_finished]
      exact .next (await_serves serves adapter (.verify deviceId)) (.one (.verify wallet _))

/-! Letting go. -/

theorem disconnect_moves (serves : Serves evolves) :
    Moves evolves ⟨connection, flights, isOver⟩ none
      ⟨connection.disconnect.1,
        connection.disconnect.2.calls.map (fun call => .disconnect call.token call.adapter) +
          flights,
        isOver⟩ := by
  rw [disconnect_eq]
  cases held : connection.session.adapter with
  | none =>
      rw [Progress.map_calls_finished]
      exact .one (.leaveNothing held)
  | some adapter =>
      refine .next (.leave held) ?_
      have served := ask_serves serves
        ⟨connection.supersede, .disconnect (connection.lastToken + 1) adapter ::ₘ flights, isOver⟩
        adapter .disconnect
      simp only
      rcases asked : connection.supersede.ask adapter .disconnect with ⟨later, reply⟩
      rw [asked] at served
      cases reply with
      | later milliseconds =>
          rw [Progress.map_calls_waiting]
          exact .one served
      | now answer =>
          rw [Progress.map_calls_finished]
          exact .next served (.one (.left ⟨connection.lastToken + 1, adapter⟩))

theorem resumeDisconnect_moves (serves : Serves evolves) (call : DisconnectCall) :
    Moves evolves ⟨connection, .disconnect call.token call.adapter ::ₘ flights, isOver⟩ none
      ⟨(connection.resumeDisconnect call).1, flights, isOver⟩ :=
  .next (await_serves serves call.adapter .disconnect) (.one (.left call))

/-! Operations. -/

theorem operate_moves (operation : Operation) :
    Moves evolves ⟨connection, flights, isOver⟩ none
      ⟨(connection.operate operation).1,
        (connection.operate operation).2.calls.map (fun call => .operation call.token) + flights,
        isOver⟩ := by
  simp only [operate]
  split
  next adapter token held current =>
    refine .next (.operate (by simp [held]) current) ?_
    generalize (if connection.cancelled = true then connection
      else connection.publish .awaitingConfirmation) = begun
    by_cases instant : operation.milliseconds = 0
    · simp only [instant, if_true, Progress.map_calls_finished]
      exact .one (.operated ⟨token, _, _, operation.answer⟩)
    · simp only [instant, if_false, Progress.map_calls_waiting]
      exact .done _
  next =>
    rw [Progress.map_calls_finished]
    exact .done _

/-! Events. -/

theorem pump_moves :
    Moves evolves ⟨connection, flights, isOver⟩ (ConnectionEvent.shown? connection .pump)
      ⟨connection.pump, flights, isOver⟩ := by
  cases waiting : connection.inbox with
  | nil =>
      simp only [pump, ConnectionEvent.shown?, waiting, List.head?_nil, Option.bind_none]
      exact .done _
  | cons signal rest =>
      simp only [pump, ConnectionEvent.shown?, waiting, List.head?_cons, Option.bind_some]
      exact .next (.inbox rest connection.inboxOpen) (.one (.notice signal.token signal.notice))

theorem react_moves (event : ConnectionEvent) :
    Moves evolves ⟨connection, flights, isOver⟩ (event.shown? connection)
      ⟨connection.react event, flights, isOver || event.isEnd⟩ := by
  cases event <;> simp only [ConnectionEvent.isEnd, Bool.or_true, Bool.or_false]
  case reset => exact .one .reset
  case teardown => exact .one .teardown
  case cancel => exact .one .cancel
  case clearError => exact .one .clearError
  case lost error => exact .one (.lose error)
  case noticed token notice => exact .one (.notice token notice)
  case pump => exact pump_moves
  case closeInbox => exact .one (.inbox [] false)

/-! Calls. -/

theorem begin_moves (serves : Serves evolves) (request : ConnectionRequest) :
    Moves evolves ⟨connection, flights, isOver⟩ (request.shown? connection)
      ⟨(connection.begin request).1,
        (connection.begin request).2.calls.map ConnectionCall.flight + flights, isOver⟩ := by
  cases request <;>
    simp only [begin, Prod.map_fst, Prod.map_snd, id_eq, Progress.calls_map, Multiset.map_map]
  case connect wallet target => exact connect_moves serves wallet target
  case disconnect => exact disconnect_moves serves
  case makeReady wallet wanted found milliseconds =>
    exact makeReady_moves serves wallet wanted found milliseconds
  case operate operation => exact operate_moves operation

theorem resume_moves (serves : Serves evolves) (call : ConnectionCall) :
    Moves evolves ⟨connection, call.flight ::ₘ flights, isOver⟩ (call.shown? connection)
      ⟨(connection.resume call).1,
        (connection.resume call).2.calls.map ConnectionCall.flight + flights, isOver⟩ := by
  cases call <;>
    simp only [resume, Prod.map_fst, Prod.map_snd, id_eq, Progress.calls_map, Multiset.map_map]
  case attempt call => exact resumeAttempt_moves serves call
  case readiness call => exact resumeReadiness_moves serves call
  case disconnect call =>
    rw [resumeDisconnect, Progress.map_calls_finished]
    exact resumeDisconnect_moves serves call
  case operation call =>
    rw [resumeOperation, Progress.map_calls_finished]
    exact .one (.operated call)

/-! No call ends the session. -/

theorem serves_always : Serves fun _ _ : Bench => True := by
  constructor <;> intros <;> trivial

@[simp] theorem begin_cancelled (request : ConnectionRequest) :
    (connection.begin request).1.cancelled = connection.cancelled := by
  have moves : Moves _ ⟨connection, 0, false⟩ _ _ := begin_moves serves_always request
  exact (moves.isOver_of rfl).2

@[simp] theorem resume_cancelled (call : ConnectionCall) :
    (connection.resume call).1.cancelled = connection.cancelled := by
  have moves : Moves _ ⟨connection, call.flight ::ₘ 0, false⟩ _ _ :=
    resume_moves serves_always call
  exact (moves.isOver_of rfl).2

theorem react_cancelled {event : ConnectionEvent} (goesOn : event.isEnd = false) :
    (connection.react event).cancelled = connection.cancelled := by
  have moves : Moves (fun _ _ => True) ⟨connection, 0, false⟩ _ _ := react_moves event
  exact (moves.isOver_of goesOn).2

end Connection

namespace Run

variable {evolves : Bench → Bench → Prop} {before after : Run Bench}

inductive Shows (evolves : Bench → Bench → Prop) :
    Run Bench → Option Unbacked → Run Bench → Prop where
  | begin (run : Run Bench) (request : ConnectionRequest) :
      Shows evolves run (request.shown? run.connection) (run.begin request)
  | resume (connection : Connection Bench) (call : ConnectionCall)
      (others : Multiset ConnectionCall) (isOver : Bool) :
      Shows evolves ⟨connection, call ::ₘ others, isOver⟩ (call.shown? connection)
        ⟨(connection.resume call).1, (connection.resume call).2.calls + others, isOver⟩
  | react (run : Run Bench) (event : ConnectionEvent) :
      Shows evolves run (event.shown? run.connection) (run.react event)
  | onBench (run : Run Bench) (change : Bench → Bench × List Signal) :
      evolves run.connection.bench (change run.connection.bench).1 →
      Shows evolves run none { run with connection := run.connection.onBench change }

theorem Step.shows (step : Step evolves before after) :
    ∃ shown, Shows evolves before shown after := by
  cases step with
  | begin _ request => exact ⟨_, .begin before request⟩
  | resume connection call others isOver => exact ⟨_, .resume connection call others isOver⟩
  | react _ event => exact ⟨_, .react before event⟩
  | onBench _ change evolved => exact ⟨_, .onBench before change evolved⟩

theorem Shows.moves {shown : Option Unbacked} (serves : Serves evolves)
    (shows : Shows evolves before shown after) :
    Moves evolves before.situation shown after.situation := by
  cases shows with
  | begin _ request =>
      simp only [situation, Run.begin, Multiset.map_add]
      exact Connection.begin_moves serves request
  | resume connection call others isOver =>
      simp only [situation, Multiset.map_add, Multiset.map_cons]
      exact Connection.resume_moves serves call
  | react _ event => exact Connection.react_moves event
  | onBench _ change evolved => exact .one (.serve _ _ evolved)

theorem Steps.keep (invariant : Situation Bench → Prop) (serves : Serves evolves)
    (move : ∀ {before shown after}, Move evolves before shown after →
      invariant before → invariant after)
    (steps : Steps evolves before after) (start : invariant before.situation) :
    invariant after.situation := by
  induction steps with
  | refl => exact start
  | tail _ step ih =>
      obtain ⟨shown, shows⟩ := step.shows
      exact (shows.moves serves).keep move ih

end Run

end SignerLink
