import SignerLink.Proofs.Connection.Clearing
import SignerLink.Proofs.Connection.Departure
import SignerLink.Proofs.Connection.Lease
/-!
The application that a session names. It is the one of the latest report that was heard under the
session's token. Whatever takes the adapter away forgets the name with it, except an attempt that
fails: a report that came while it was connecting is still there afterwards.
-/

namespace SignerLink

/-- What an adapter has reported of its application, and whether its attempt has failed since. -/
structure AppReport where
  token : Token
  app : Option String
  failed : Bool := false
  deriving DecidableEq, Repr

/-- What a step means for the application's name. -/
inductive AppMoment where
  | silent
  | told (token : Token) (app : Option String)
  | failed (token : Token)
  deriving DecidableEq, Repr

def AppMoment.recall (heard : Option AppReport) : AppMoment → Option AppReport
  | .silent => heard
  | .told token app => some { token := token, app := app }
  | .failed token =>
      heard.map fun report =>
        if report.token = token then { report with failed := true } else report

namespace Connection

variable {Bench : Type} {connection : Connection Bench} {token : Token}

/-- A notice is heard while its token is the session's. -/
def hearing (connection : Connection Bench) (token : Token) (notice : Notice) : AppMoment :=
  if connection.interruption? token = none ∧ notice.kind = .appChanged then .told token notice.app
  else .silent

theorem handleNotice_hearing (token : Token) (notice : Notice) :
    connection.hearing token notice = .silent ∧
        (connection.handleNotice token notice).session = connection.session ∨
      connection.hearing token notice = .told token notice.app ∧
        connection.session.token = some token ∧
        (connection.handleNotice token notice).session =
          { connection.session with appName := notice.app } := by
  rw [hearing, handleNotice_eq]
  cases current : connection.interruption? token with
  | some outcome => exact .inl ⟨if_neg (by simp), rfl⟩
  | none =>
      rw [Option.isSome_none, if_neg Bool.false_ne_true, publish_session, noting]
      by_cases told : notice.kind = .appChanged
      · rw [if_pos ⟨rfl, told⟩, if_pos told]
        exact .inr ⟨rfl, (interruption?_eq_none.mp current).2, rfl⟩
      · rw [if_neg fun both => told both.2, if_neg told]
        exact .inl ⟨rfl, rfl⟩

/-! What the steps of calls do to the session. -/

/-- What a step of an attempt under a token does to the token, the adapter and the name. The step
destroys its own adapter even when it is overtaken. -/
structure AttemptEffect (under : Token) (own : Option AdapterId) (failed : Bool)
    (before after : Session) : Prop where
  appName : after.appName = before.appName
  token : after.token = if failed then none else before.token
  current : failed = true → before.token = some under
  adapter : failed = false → before.adapter.isSome = true → after.adapter = before.adapter ∨
    before.token ≠ some under ∧ before.adapter = own

theorem AttemptEffect.of_kept {under : Token} {own : Option AdapterId} {before after : Session}
    (appName : after.appName = before.appName) (token : after.token = before.token)
    (adapter : after.adapter = before.adapter) : AttemptEffect under own false before after where
  appName := appName
  token := token
  current lost := absurd lost Bool.false_ne_true
  adapter _ _ := .inl adapter

theorem AttemptEffect.refl (token : Token) (own : Option AdapterId) (session : Session) :
    AttemptEffect token own false session session :=
  .of_kept rfl rfl rfl

theorem AttemptEffect.of_free {under : Token} {own other : Option AdapterId} {failed : Bool}
    {before middle after : Session} (effect : AttemptEffect under other failed middle after)
    (free : before.adapter = none) (appName : middle.appName = before.appName)
    (token : middle.token = before.token) : AttemptEffect under own failed before after where
  appName := effect.appName.trans appName
  token := by rw [effect.token, token]
  current lost := token.symm.trans (effect.current lost)
  adapter _ held := by
    rw [free] at held
    cases held

variable [AdapterBench Bench]

theorem discard_effect (stale : connection.session.token ≠ some token) (adapter : AdapterId) :
    AttemptEffect token (some adapter) false connection.session
      (connection.discard adapter).session := by
  rw [discard_session]
  split
  next held =>
    exact ⟨rfl, rfl, fun lost => absurd lost Bool.false_ne_true, fun _ _ => .inr ⟨stale, held⟩⟩
  next => exact .refl _ _ _

theorem failAttempt_effect (current : connection.session.token = some token)
    (own : Option AdapterId) (error : WalletError) :
    AttemptEffect token own true connection.session (connection.failAttempt error).1.session := by
  rw [failAttempt_session]
  exact ⟨rfl, rfl, fun _ => current, fun kept => absurd kept.symm Bool.false_ne_true⟩

theorem connectAnswered_effect (live : connection.cancelled = false) (wallet : Wallet)
    (adapter : AdapterId) (answer : AdapterAnswer) :
    AttemptEffect token (some adapter)
      (connection.connectAnswered token wallet adapter answer).2.shown?.isSome connection.session
      (connection.connectAnswered token wallet adapter answer).1.session := by
  cases current : connection.interruption? token with
  | some outcome =>
      simp only [connectAnswered, current]
      rw [interruption?_shown current]
      exact discard_effect (stale_of_interruption? live (by rw [current]; rfl)) adapter
  | none =>
      cases answer with
      | error error =>
          simp only [connectAnswered, current]
          exact failAttempt_effect (interruption?_eq_none.mp current).2 _ _
      | ok _ =>
          simp only [connectAnswered, current, publish_session]
          exact .of_kept rfl rfl rfl

theorem openAdapter_effect (current : connection.interruption? token = none)
    (free : connection.session.adapter = none) (own : Option AdapterId) (wallet : Wallet)
    (deviceId : String) :
    AttemptEffect token own (attemptShown? (connection.openAdapter token wallet deviceId).2).isSome
      connection.session (connection.openAdapter token wallet deviceId).1.session := by
  obtain ⟨live, mine⟩ := interruption?_eq_none.mp current
  simp only [openAdapter]
  split
  next bench error _ =>
    generalize placed : { setSession connection _ with bench := bench } = next
    have appName : next.session.appName = connection.session.appName := by rw [← placed]; rfl
    have kept : next.session.token = connection.session.token := by rw [← placed]; rfl
    exact (failAttempt_effect (kept.trans mine) none error).of_free free appName kept
  next bench adapter _ =>
    generalize opened : setSession { setSession connection _ with bench := bench } _ = next
    have appName : next.session.appName = connection.session.appName := by rw [← opened]; rfl
    have kept : next.session.token = connection.session.token := by rw [← opened]; rfl
    have cancelled : next.cancelled = false := by rw [← opened]; exact live
    have asked := next.ask_session adapter (.connect deviceId)
    have goesOn : (next.ask adapter (.connect deviceId)).1.cancelled = next.cancelled :=
      deliver_cancelled _ _
    rcases reached : next.ask adapter (.connect deviceId) with ⟨later, reply⟩
    rw [reached] at asked goesOn
    rw [← asked] at appName kept
    cases reply with
    | later milliseconds =>
        exact (AttemptEffect.refl token none later.session).of_free free appName kept
    | now answer =>
        exact (connectAnswered_effect (goesOn.trans cancelled) wallet adapter answer).of_free free
          appName kept

theorem searched_effect
    (free : connection.session.token = some token → connection.session.adapter = none)
    (own : Option AdapterId) (wallet : Wallet) (found : DeviceSearch) :
    AttemptEffect token own (attemptShown? (connection.searched token wallet found).2).isSome
      connection.session (connection.searched token wallet found).1.session := by
  cases current : connection.interruption? token with
  | some outcome =>
      have shown : attemptShown? (.finished outcome) = none := interruption?_shown current
      simp only [searched, current, shown]
      exact .refl _ _ _
  | none =>
      have mine := (interruption?_eq_none.mp current).2
      rcases found with error | (_ | deviceId)
      · simp only [searched, current]
        exact failAttempt_effect mine own _
      · simp only [searched, current]
        exact failAttempt_effect mine own _
      · simp only [searched, current]
        exact openAdapter_effect current (free mine) own wallet deviceId

theorem resumeAttempt_effect (live : connection.cancelled = false) (call : AttemptCall)
    (free : call.flight = .attempt call.token none →
      connection.session.token = some call.token → connection.session.adapter = none) :
    AttemptEffect call.token call.flight.adapter?
      (attemptShown? (connection.resumeAttempt call).2).isSome connection.session
      (connection.resumeAttempt call).1.session := by
  cases call with
  | searching token wallet found => exact searched_effect (free rfl) _ wallet found
  | connecting token wallet deviceId adapter =>
      have waited := connection.await_session adapter (.connect deviceId)
      have goesOn := connection.await_cancelled adapter (.connect deviceId)
      rw [← waited]
      exact connectAnswered_effect (goesOn.trans live) wallet adapter _

theorem verify_session (wallet : Wallet) (deviceId : String) (adapter : AdapterId) :
    (connection.verify token wallet deviceId adapter).1.session = connection.session := by
  have asked := connection.ask_session adapter (.verify deviceId)
  simp only [verify]
  rcases reached : connection.ask adapter (.verify deviceId) with ⟨later, reply⟩
  rw [reached] at asked
  cases reply with
  | later milliseconds => exact asked
  | now answer => exact (verifyAnswered_session later token wallet answer).trans asked

theorem verifyConnected_session (wallet : Wallet) (progress : AttemptProgress) :
    (connection.verifyConnected wallet progress).1.session = connection.session := by
  simp only [verifyConnected]
  split
  next => rfl
  next =>
    split
    next =>
      split
      next => rfl
      next token deviceId adapter _ => exact verify_session wallet deviceId adapter
    next => rfl

theorem resume_effect (live : connection.cancelled = false) (call : ConnectionCall)
    (free : call.flight = .attempt call.token none →
      connection.session.token = some call.token → connection.session.adapter = none)
    (other : ∀ departing, call = .disconnect departing →
      connection.session.token ≠ some departing.token) :
    AttemptEffect call.token call.flight.adapter? (call.shown? connection).isSome
      connection.session (connection.resume call).1.session := by
  cases call with
  | attempt call => exact resumeAttempt_effect live call free
  | readiness call =>
      cases call with
      | attempting wallet call =>
          have attempted := resumeAttempt_effect live call free
          have verified : (connection.resume (.readiness (.attempting wallet call))).1.session =
              (connection.resumeAttempt call).1.session := verifyConnected_session wallet _
          rw [verified]
          exact attempted
      | verifying token wallet deviceId adapter =>
          rw [resume_follower_session rfl]
          exact .refl _ _ _
  | disconnect call =>
      have stale := other call rfl
      have waited := connection.await_session call.adapter .disconnect
      have answered : (connection.resume (.disconnect call)).1.session =
          ((connection.await call.adapter .disconnect).1.discard call.adapter).session := by
        have overtaken :
            (connection.await call.adapter .disconnect).1.session.token ≠ some call.token := by
          rwa [waited]
        exact (disconnectAnswered_session _ call).trans (if_neg overtaken)
      rw [answered, ← waited]
      exact discard_effect (by rwa [waited]) call.adapter
  | operation call =>
      rw [resume_follower_session rfl]
      exact .refl _ _ _

theorem connect_appName (live : connection.cancelled = false) (wallet : Wallet)
    (target : Target) : (connection.connect wallet target).1.session.appName = none := by
  have begun (deviceId : Option String) :
      (connection.beginAttempt wallet deviceId).1.session.appName = none := by
    rw [beginAttempt_session]
  have free (deviceId : Option String) :
      (connection.beginAttempt wallet deviceId).1.session.adapter = none := by
    rw [beginAttempt_session]
  have current (deviceId : Option String) := beginAttempt_current wallet deviceId live
  simp only [connect, live, Bool.false_eq_true, if_false]
  cases target with
  | device id =>
      exact (openAdapter_effect (current _) (free _) none wallet id).appName.trans (begun (some id))
  | search found milliseconds =>
      dsimp only
      split
      · exact (searched_effect (fun _ => free none) none wallet found).appName.trans (begun none)
      · exact begun none

theorem begin_session (live : connection.cancelled = false) (request : ConnectionRequest) :
    (connection.begin request).1.session.appName = none ∨
      (connection.begin request).1.session = connection.session ∨
      ∃ token adapter, (connection.begin request).1.session.token = some token ∧
        .disconnect token adapter ∈
          (connection.begin request).2.calls.map ConnectionCall.flight := by
  cases request with
  | connect wallet target => exact .inl (connect_appName live wallet target)
  | disconnect =>
      have departs := connection.disconnect_departs
      simp only [begin, Prod.map_fst, Prod.map_snd, id_eq, Progress.calls_map, Multiset.map_map]
      generalize connection.disconnect = begun at departs
      cases departs with
      | empty _ => exact .inl (by rw [supersede_finishDisconnect_session])
      | @asks next adapter milliseconds _ session =>
          refine .inr (.inr ⟨connection.lastToken + 1, adapter, by rw [session]; rfl, ?_⟩)
          exact Multiset.mem_map_of_mem _ (Multiset.mem_singleton_self _)
      | @answered next adapter _ session _ =>
          have current : next.session.token = some (connection.lastToken + 1) := by
            rw [session]
            rfl
          exact .inl (by rw [disconnectAnswered_session, if_pos current])
  | makeReady wallet wanted found milliseconds =>
      simp only [begin, Prod.map_fst, id_eq, makeReady]
      split
      next => exact .inr (.inl rfl)
      next token deviceId adapter _ => exact .inr (.inl (verify_session wallet deviceId adapter))
      next =>
        exact .inl ((congrArg Session.appName (verifyConnected_session wallet _)).trans
          (connect_appName live wallet _))
  | operate operation => exact .inr (.inl (operate_session operation))

end Connection

/-! What a step means for the name. -/

variable {Bench : Type} [AdapterBench Bench]

/-- An attempt fails. One that fails as soon as it begins has nobody's name to keep. -/
def ConnectionCall.moment (connection : Connection Bench) (call : ConnectionCall) : AppMoment :=
  if (call.shown? connection).isSome then .failed call.token else .silent

def ConnectionEvent.moment (connection : Connection Bench) : ConnectionEvent → AppMoment
  | .noticed token notice => connection.hearing token notice
  | .pump =>
      match connection.inbox with
      | [] => .silent
      | signal :: _ => connection.hearing signal.token signal.notice
  | .reset | .teardown | .cancel | .clearError | .lost _ | .closeInbox => .silent

namespace Run

variable {evolves : Bench → Bench → Prop} {before after run : Run Bench} {moment : AppMoment}

inductive Tells (evolves : Bench → Bench → Prop) : Run Bench → AppMoment → Run Bench → Prop where
  | begin (run : Run Bench) (request : ConnectionRequest) :
      Tells evolves run .silent (run.begin request)
  | resume (connection : Connection Bench) (call : ConnectionCall)
      (others : Multiset ConnectionCall) (isOver : Bool) :
      Tells evolves ⟨connection, call ::ₘ others, isOver⟩ (call.moment connection)
        ⟨(connection.resume call).1, (connection.resume call).2.calls + others, isOver⟩
  | react (run : Run Bench) (event : ConnectionEvent) :
      Tells evolves run (event.moment run.connection) (run.react event)
  | onBench (run : Run Bench) (change : Bench → Bench × List Signal) :
      evolves run.connection.bench (change run.connection.bench).1 →
      Tells evolves run .silent { run with connection := run.connection.onBench change }

/-- A run with the latest report that was heard in it. -/
inductive Hears (evolves : Bench → Bench → Prop) : Run Bench → Option AppReport → Prop where
  | start (bench : Bench) : Hears evolves (start bench) none
  | step {before after : Run Bench} {heard : Option AppReport} {moment : AppMoment} :
      Hears evolves before heard → Tells evolves before moment after →
      Hears evolves after (moment.recall heard)

theorem Tells.step (tells : Tells evolves before moment after) : Step evolves before after := by
  cases tells with
  | begin _ request => exact .begin before request
  | resume connection call others isOver => exact .resume connection call others isOver
  | react _ event => exact .react before event
  | onBench _ change evolved => exact .onBench before change evolved

theorem Step.tells (step : Step evolves before after) :
    ∃ moment, Tells evolves before moment after := by
  cases step with
  | begin _ request => exact ⟨_, .begin before request⟩
  | resume connection call others isOver => exact ⟨_, .resume connection call others isOver⟩
  | react _ event => exact ⟨_, .react before event⟩
  | onBench _ change evolved => exact ⟨_, .onBench before change evolved⟩

theorem Hears.reachable {heard : Option AppReport} (hears : Hears evolves run heard) :
    run.Reachable evolves := by
  induction hears with
  | start bench => exact ⟨bench, .refl⟩
  | step _ tells ih =>
      obtain ⟨bench, steps⟩ := ih
      exact ⟨bench, steps.tail tells.step⟩

/-- Every run is one in which something, or nothing, was heard last. -/
theorem Reachable.hears (reachable : run.Reachable evolves) :
    ∃ heard, Hears evolves run heard := by
  obtain ⟨bench, steps⟩ := reachable
  induction steps with
  | refl => exact ⟨none, .start bench⟩
  | tail _ step ih =>
      obtain ⟨heard, hears⟩ := ih
      obtain ⟨moment, tells⟩ := step.tells
      exact ⟨_, .step hears tells⟩

/-- What a step does to the name, and to what the name depends on. -/
inductive NameEffect (before after : Run Bench) : AppMoment → Prop where
  | forgets : after.connection.session.appName = none → NameEffect before after .silent
  | leaves : after.situation.IsLeaving → NameEffect before after .silent
  | keeps : after.connection.session.appName = before.connection.session.appName →
      after.connection.session.token = before.connection.session.token →
      (before.situation.IsLeaving → after.situation.IsLeaving) →
      (∀ adapter, before.connection.session.adapter = some adapter →
        after.connection.session.adapter ≠ some adapter → after.situation.IsLeaving) →
      NameEffect before after .silent
  | hears (token : Token) (app : Option String) : before.connection.session.token = some token →
      after.connection.session = { before.connection.session with appName := app } →
      (before.situation.IsLeaving → after.situation.IsLeaving) →
      NameEffect before after (.told token app)
  | fails (token : Token) : before.connection.session.token = some token →
      after.connection.session.token = none →
      after.connection.session.appName = before.connection.session.appName →
      ¬before.situation.IsLeaving → NameEffect before after (.failed token)

omit [AdapterBench Bench] in
theorem NameEffect.of_session
    (same : after.connection.session = before.connection.session)
    (kept : before.situation.flights ≤ after.situation.flights) :
    NameEffect before after .silent := by
  refine .keeps (by rw [same]) (by rw [same]) (fun leaving => ?_) ?_
  · exact leaving.mono (by rw [same]) fun _ _ _ member => Multiset.mem_of_le kept member
  · intro adapter held gone
    exact absurd (same ▸ held) gone

omit [AdapterBench Bench] in
theorem NameEffect.of_notice (hearer : Connection Bench) {token : Token} {notice : Notice}
    (own : hearer.session = before.connection.session)
    (kept : after.situation.flights = before.situation.flights)
    (handled : after.connection.session = (hearer.handleNotice token notice).session) :
    NameEffect before after (hearer.hearing token notice) := by
  rcases hearer.handleNotice_hearing token notice with
    ⟨silent, same⟩ | ⟨told, current, changed⟩
  · rw [silent]
    exact .of_session (handled.trans (same.trans own)) kept.ge
  · rw [told]
    rw [own] at current changed
    have session := handled.trans changed
    refine .hears token notice.app current session fun leaving => ?_
    exact leaving.mono (by rw [session]) fun _ _ _ member => Multiset.mem_of_le kept.ge member

theorem react_nameEffect (run : Run Bench) (event : ConnectionEvent)
    (goesOn : (run.react event).isOver = false) :
    NameEffect run (run.react event) (event.moment run.connection) := by
  have kept : (run.react event).situation.flights = run.situation.flights := rfl
  cases event with
  | teardown | cancel => simp [react, ConnectionEvent.isEnd] at goesOn
  | reset => exact .forgets (congrArg Session.appName run.connection.reset_session)
  | clearError => exact .of_session run.connection.clearError_session kept.ge
  | closeInbox => exact .of_session rfl kept.ge
  | lost error =>
      have session := run.connection.handleDisconnect_session error
      by_cases ignored : (run.connection.cancelled || run.connection.session.connecting) = true
      · rw [if_pos ignored] at session
        exact .of_session session kept.ge
      · rw [if_neg ignored] at session
        exact .forgets (congrArg Session.appName session)
  | noticed token notice => exact .of_notice _ rfl kept rfl
  | pump =>
      have pumped : (run.react .pump).connection = run.connection.pump := rfl
      cases waiting : run.connection.inbox with
      | nil =>
          simp only [Connection.pump, waiting] at pumped
          simp only [ConnectionEvent.moment, waiting]
          exact .of_session (congrArg Connection.session pumped) kept.ge
      | cons signal rest =>
          simp only [Connection.pump, waiting] at pumped
          simp only [ConnectionEvent.moment, waiting]
          exact .of_notice { run.connection with inbox := rest } rfl kept
            (congrArg Connection.session pumped)

theorem begin_nameEffect (run : Run Bench) (request : ConnectionRequest)
    (live : run.connection.cancelled = false) : NameEffect run (run.begin request) .silent := by
  have flights : (run.begin request).situation.flights =
      (run.connection.begin request).2.calls.map ConnectionCall.flight + run.situation.flights :=
    Multiset.map_add _ _ _
  rcases Connection.begin_session live request with gone | same | ⟨token, adapter, current, member⟩
  · exact .forgets gone
  · refine .of_session same ?_
    rw [flights]
    exact Multiset.le_add_left _ _
  · refine .leaves ⟨token, adapter, current, ?_⟩
    rw [flights]
    exact Multiset.mem_add.mpr (.inl member)

omit [AdapterBench Bench] in
theorem mem_disconnect {calls : Multiset ConnectionCall} {token : Token} {adapter : AdapterId} :
    .disconnect token adapter ∈ calls.map ConnectionCall.flight ↔
      .disconnect ⟨token, adapter⟩ ∈ calls := by
  constructor
  · intro member
    obtain ⟨call, waits, flight⟩ := Multiset.mem_map.mp member
    rcases call with (_ | _) | (⟨_, _ | _⟩ | _) | ⟨_, _⟩ | _
    case disconnect =>
      cases flight
      exact waits
    all_goals cases flight
  · exact fun waits => Multiset.mem_map_of_mem ConnectionCall.flight waits

theorem shown_attempt {connection : Connection Bench} {call : ConnectionCall}
    (failed : (call.shown? connection).isSome = true) :
    ∃ adapter, call.flight = .attempt call.token adapter := by
  rcases call with (_ | _) | (⟨_, _ | _⟩ | _) | _ | _
  case attempt.searching | readiness.attempting.searching => exact ⟨none, rfl⟩
  case attempt.connecting | readiness.attempting.connecting => exact ⟨some _, rfl⟩
  all_goals cases failed

theorem Led.not_disconnecting {session : Session} {flights : Multiset Flight} {token : Token}
    {opened : Option AdapterId} (led : Led session (.attempt token opened ::ₘ flights))
    (current : session.token = some token) (adapter : AdapterId) :
    .disconnect token adapter ∉ flights := by
  intro member
  have owner : .disconnect token adapter ∈ owners flights token :=
    mem_owners.mpr ⟨member, rfl, rfl⟩
  have none : owners flights token = 0 := (led.leads rfl current).1
  rw [none] at owner
  cases owner

theorem resume_nameEffect {connection : Connection Bench} {call : ConnectionCall}
    {others : Multiset ConnectionCall} {isOver : Bool} (live : connection.cancelled = false)
    (led : Led connection.session (call.flight ::ₘ others.map ConnectionCall.flight)) :
    NameEffect ⟨connection, call ::ₘ others, isOver⟩
      ⟨(connection.resume call).1, (connection.resume call).2.calls + others, isOver⟩
      (call.moment connection) := by
  by_cases leads : ∃ departing, call = .disconnect departing ∧
      connection.session.token = some departing.token
  · obtain ⟨departing, rfl, current⟩ := leads
    have waited := connection.await_session departing.adapter .disconnect
    refine .forgets ?_
    have answered := Connection.disconnectAnswered_session
      (connection.await departing.adapter .disconnect).1 departing
    rw [waited, if_pos current] at answered
    exact congrArg Session.appName answered
  · have effect := Connection.resume_effect live call
      (fun flight current => (Led.search_leads (flight ▸ led) current).1)
      (fun departing same current => leads ⟨departing, same, current⟩)
    have stays {token : Token} {adapter : AdapterId}
        (member : .disconnect token adapter ∈ others.map ConnectionCall.flight) :
        .disconnect token adapter ∈
          ((connection.resume call).2.calls + others).map ConnectionCall.flight :=
      Multiset.mem_of_le (Multiset.map_le_map (Multiset.le_add_left _ _)) member
    cases failed : (call.shown? connection).isSome with
    | false =>
        rw [failed] at effect
        rw [ConnectionCall.moment, failed, if_neg Bool.false_ne_true]
        refine .keeps effect.appName effect.token ?_ ?_
        · rintro ⟨token, adapter, current, member⟩
          refine ⟨token, adapter, effect.token.trans current, stays ?_⟩
          rcases Multiset.mem_cons.mp (mem_disconnect.mp member) with rfl | member
          · exact absurd ⟨_, rfl, current⟩ leads
          · exact mem_disconnect.mpr member
        · intro adapter held gone
          -- Only a call that was overtaken takes an adapter away, and only its own, which a session
          -- still holds only while it is being left.
          rcases effect.adapter rfl (by rw [held]; rfl) with same | ⟨stale, own⟩
          · exact absurd (same.trans held) gone
          · rw [← call.flight_token] at stale
            obtain ⟨token, other, current, alone⟩ :=
              led.leaving_of_discard (own.symm.trans held) stale held
            exact ⟨token, other, effect.token.trans current, stays (mem_of_owners_eq alone).1⟩
    | true =>
        rw [failed] at effect
        rw [ConnectionCall.moment, failed, if_pos rfl]
        have current := effect.current rfl
        refine .fails call.token current effect.token effect.appName ?_
        -- A session has one leader, so it is not being left while its attempt fails.
        obtain ⟨own, flight⟩ := shown_attempt failed
        rintro ⟨token, adapter, same, member⟩
        cases Option.some.inj (same.symm.trans current)
        rcases Multiset.mem_cons.mp (mem_disconnect.mp member) with departs | member
        · cases flight.symm.trans (congrArg ConnectionCall.flight departs.symm)
        · exact Led.not_disconnecting (flight ▸ led) current adapter (mem_disconnect.mpr member)

variable [FreshBench Bench]

theorem Tells.nameEffect (tells : Tells evolves before moment after)
    (sound : before.situation.Sound) (goesOn : after.isOver = false) :
    NameEffect before after moment := by
  have live := sound.live
  have led := sound.led
  cases tells with
  | begin _ request => exact begin_nameEffect before request live
  | resume connection call others isOver =>
      simp only [situation, Multiset.map_cons] at led
      exact resume_nameEffect live led
  | react _ event => exact react_nameEffect before event goesOn
  | onBench _ change _ => exact .of_session (Connection.deliver_session _ _) le_rfl

/-- The name is the one of the latest report, under whose token the session is until the attempt
fails. A session that is being left may be under another. -/
def Attributes (run : Run Bench) (heard : Option AppReport) : Prop :=
  ∀ name, run.connection.session.appName = some name → run.situation.IsLeaving ∨
    ∃ report, heard = some report ∧ report.app = some name ∧
      run.connection.session.token = if report.failed then none else some report.token

omit [AdapterBench Bench] [FreshBench Bench] in
theorem NameEffect.attributes {heard : Option AppReport} (effect : NameEffect before after moment)
    (attributes : before.Attributes heard) : after.Attributes (moment.recall heard) := by
  intro name named
  cases effect with
  | forgets gone =>
      rw [gone] at named
      cases named
  | leaves leaving => exact .inl leaving
  | keeps appName token leaves _ =>
      rcases attributes name (appName.symm.trans named) with leaving | ⟨report, last, app, current⟩
      · exact .inl (leaves leaving)
      · exact .inr ⟨report, last, app, token.trans current⟩
  | hears token app current session _ =>
      rw [session] at named ⊢
      exact .inr ⟨_, rfl, named, current⟩
  | fails token current lost appName stays =>
      rcases attributes name (appName.symm.trans named) with leaving | ⟨report, last, app, former⟩
      · exact absurd leaving stays
      · cases failed : report.failed with
        | true =>
            rw [failed, current] at former
            cases former
        | false =>
            rw [failed, current] at former
            have same : report.token = token := (Option.some.inj former).symm
            refine .inr ⟨{ report with failed := true }, ?_, app, lost⟩
            rw [AppMoment.recall, last, Option.map_some, if_pos same]

theorem Hears.attributes {heard : Option AppReport} (hears : Hears FreshBench.evolves run heard)
    (goesOn : run.isOver = false) : run.Attributes heard := by
  induction hears with
  | start bench => exact fun name named => nomatch named
  | step earlier tells ih =>
      have before := tells.step.isOver_of goesOn
      have sound := (earlier.reachable.sound_truthful before).1
      exact (tells.nameEffect sound goesOn).attributes (ih before)

end Run

theorem Led.adapter_eq_none_iff {session : Session} {flights : Multiset Flight} {token : Token}
    (led : Led session flights) (current : session.token = some token)
    (stays : ∀ adapter, .disconnect token adapter ∉ flights) :
    session.adapter = none ↔ .attempt token none ∈ flights := by
  have mine {leaders : Multiset Flight} (alone : owners flights token = leaders)
      (member : .attempt token none ∈ flights) : .attempt token none ∈ leaders :=
    alone ▸ mem_owners.mpr ⟨member, rfl, rfl⟩
  cases led with
  | idle noToken _ _ =>
      rw [noToken] at current
      cases current
  | searching other same noAdapter _ alone _ =>
      cases same.symm.trans current
      exact iff_of_true noAdapter (mem_of_owners_eq alone).1
  | connecting other adapter same held _ _ alone _ =>
      cases same.symm.trans current
      refine iff_of_false (by simp [held]) fun member => ?_
      have searches := Multiset.mem_singleton.mp (mine alone member)
      cases searches
  | connected other adapter same held _ _ _ alone _ =>
      cases same.symm.trans current
      refine iff_of_false (by simp [held]) fun member => ?_
      cases mine alone member
  | leaving other adapter same _ alone =>
      cases same.symm.trans current
      exact absurd (mem_of_owners_eq alone).1 (stays adapter)

theorem Led.adapter_of_token {session : Session} {flights : Multiset Flight}
    (led : Led session flights) (noToken : session.token = none) : session.adapter = none := by
  cases led with
  | idle _ noAdapter _ => exact noAdapter
  | searching _ same _ _ _ _ | connecting _ _ same _ _ _ _ _ | connected _ _ same _ _ _ _ _ _
  | leaving _ _ same _ _ =>
      rw [noToken] at same
      cases same

namespace Run

variable [FreshBench Bench] {before after run : Run Bench} {moment : AppMoment}

omit [AdapterBench Bench] [FreshBench Bench] in
theorem not_isLeaving (still : ∀ call, .disconnect call ∉ run.calls) :
    ¬run.situation.IsLeaving := by
  rintro ⟨token, adapter, _, member⟩
  exact still _ (mem_disconnect.mp member)

/-- While the session goes on and no disconnect is under way, the application that it names is the
one of the latest report heard under its token. It is named without an adapter when the attempt of
the report has failed since, and while that attempt is still looking for its device. Whatever else
takes the adapter away takes the name with it. -/
theorem named_without_adapter_iff {heard : Option AppReport}
    (hears : Hears FreshBench.evolves run heard) (goesOn : run.isOver = false)
    (still : ∀ call, .disconnect call ∉ run.calls) :
    (∀ name, run.connection.session.appName = some name →
      ∃ report, heard = some report ∧ report.app = some name ∧
        run.connection.session.token = (if report.failed then none else some report.token) ∧
        (run.connection.session.adapter = none ↔
          report.failed = true ∨ ∃ call ∈ run.calls, call.flight = .attempt report.token none)) ∧
      ∀ moment after, Tells FreshBench.evolves run moment after → after.isOver = false →
        (∀ call, .disconnect call ∉ after.calls) →
          ∀ adapter, run.connection.session.adapter = some adapter →
            after.connection.session.adapter ≠ some adapter →
              (after.connection.session.appName = none ↔
                run.connection.session.appName = none ∨ ∀ token, moment ≠ .failed token) := by
  have sound := (hears.reachable.sound_truthful goesOn).1
  refine ⟨fun name named => ?_, ?_⟩
  · rcases hears.attributes goesOn name named with leaving | ⟨report, last, app, token⟩
    · exact absurd leaving (not_isLeaving still)
    · refine ⟨report, last, app, token, ?_⟩
      cases failed : report.failed with
      | true =>
          rw [failed] at token
          exact iff_of_true (sound.led.adapter_of_token token) (.inl rfl)
      | false =>
          rw [failed] at token
          have searches := sound.led.adapter_eq_none_iff token
            fun adapter member => not_isLeaving still ⟨_, adapter, token, member⟩
          rw [or_iff_right Bool.false_ne_true]
          exact searches.trans Multiset.mem_map
  · intro moment after tells later quiet adapter held gone
    cases tells.nameEffect sound later with
    | forgets forgotten => exact iff_of_true forgotten (.inr nofun)
    | leaves leaving => exact absurd leaving (not_isLeaving quiet)
    | keeps _ _ _ released => exact absurd (released adapter held gone) (not_isLeaving quiet)
    | hears token app _ session _ =>
        rw [session] at gone
        exact absurd held gone
    | fails token _ _ appName _ =>
        rw [appName]
        exact ⟨.inl, fun either => either.resolve_right fun other => other token rfl⟩

def slowToFail : AdapterScript :=
  { connectDelay := 10
    connectError := some (.other "timeout")
    emitStart := [{ kind := .appChanged, app := some "Ethereum" }] }

def slowConnect : ConnectionCall := .attempt (.connecting 1 .ledger "left" 0)

def reportedEarly : Run ScriptedBench :=
  ((start { scripts := [slowToFail] }).begin (.connect .ledger (.device "left"))).react .pump

def failedLater : Run ScriptedBench :=
  ⟨(reportedEarly.connection.resume slowConnect).1,
    (reportedEarly.connection.resume slowConnect).2.calls + 0, false⟩

theorem failedLater_tells : Tells FreshBench.evolves reportedEarly (.failed 1) failedLater :=
  .resume reportedEarly.connection slowConnect 0 false

theorem reportedEarly_hears :
    Hears FreshBench.evolves reportedEarly (some ⟨1, some "Ethereum", false⟩) :=
  .step (.step (.start _) (.begin _ _)) (.react _ .pump)

theorem named_without_adapter_iff_failedLater :
    (failedLater.connection.session.appName = some "Ethereum" ∧
        failedLater.connection.session.adapter = none) ∧
      (failedLater.connection.session.appName = none ↔
        reportedEarly.connection.session.appName = none ∨
          ∀ token, AppMoment.failed 1 ≠ .failed token) := by
  have busy : ∀ call, .disconnect call ∉ reportedEarly.calls := by
    have calls : reportedEarly.calls = {slowConnect} + 0 := rfl
    simp [calls, slowConnect]
  have quiet : ∀ call, .disconnect call ∉ failedLater.calls := by
    have calls : failedLater.calls = 0 + 0 := rfl
    simp [calls]
  obtain ⟨named, _⟩ :=
    named_without_adapter_iff (.step reportedEarly_hears failedLater_tells) rfl quiet
  obtain ⟨report, last, _, _, adapter⟩ := named "Ethereum" rfl
  cases last
  obtain ⟨_, released⟩ := named_without_adapter_iff reportedEarly_hears rfl busy
  exact ⟨⟨rfl, adapter.mpr (.inl rfl)⟩,
    released _ _ failedLater_tells rfl quiet 0 rfl nofun⟩

theorem app_named_without_adapter :
    ¬∀ run : Run ScriptedBench, run.Reachable FreshBench.evolves → run.isOver = false →
      (∀ call, .disconnect call ∉ run.calls) → run.connection.session.appName.isSome = true →
      run.connection.session.adapter.isSome = true := by
  intro backed
  have calls : failedLater.calls = 0 + 0 := rfl
  have held := backed failedLater
    (reportedEarly_hears.step failedLater_tells).reachable rfl (by simp [calls]) rfl
  have none : failedLater.connection.session.adapter = none := rfl
  rw [none] at held
  cases held

end Run

end SignerLink
