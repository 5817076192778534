import Mathlib.Data.Multiset.MapFold
import SignerLink.Proofs.Connection.Fields
/-!
The moves that steps are made of. A call in flight matters to the session only by what it may
still do there: lead an attempt on, end a disconnect, show the answer to a check or to an
operation. Each move does one such thing. Invariants are proved of moves and carried over to
steps by `Run.Step.moves`.
-/

namespace SignerLink

/-- What a call in flight may still do to the session. -/
inductive Flight where
  | attempt (token : Token) (adapter : Option AdapterId)
  | disconnect (token : Token) (adapter : AdapterId)
  | verification (token : Token)
  | operation (token : Token)
  deriving DecidableEq, Repr

namespace Flight

def token : Flight → Token
  | .attempt token _ | .disconnect token _ | .verification token | .operation token => token

/-- Whether the flight decides how the session goes on while its token is the session's. -/
def isOwner : Flight → Bool
  | .attempt _ _ | .disconnect _ _ => true
  | .verification _ | .operation _ => false

def adapter? : Flight → Option AdapterId
  | .attempt _ adapter => adapter
  | .disconnect _ adapter => some adapter
  | .verification _ | .operation _ => none

end Flight

def AttemptCall.flight : AttemptCall → Flight
  | .searching token _ _ => .attempt token none
  | .connecting token _ _ adapter => .attempt token (some adapter)

def ReadinessCall.flight : ReadinessCall → Flight
  | .attempting _ call => call.flight
  | .verifying token _ _ _ => .verification token

def ConnectionCall.flight : ConnectionCall → Flight
  | .attempt call => call.flight
  | .readiness call => call.flight
  | .disconnect call => .disconnect call.token call.adapter
  | .operation call => .operation call.token

theorem ConnectionCall.flight_token (call : ConnectionCall) : call.flight.token = call.token := by
  rcases call with (_ | _) | (⟨_, _ | _⟩ | _) | _ | _ <;> rfl

/-- What is shown by a move that leaves the session without an adapter. -/
inductive Unbacked where
  | lost (error : WalletError)
  | noticed (notice : Notice) (wallet : Option Wallet)

structure Situation (Bench : Type) where
  connection : Connection Bench
  flights : Multiset Flight
  isOver : Bool

def Run.situation {Bench : Type} (run : Run Bench) : Situation Bench :=
  ⟨run.connection, run.calls.map ConnectionCall.flight, run.isOver⟩

namespace Connection

variable {Bench : Type}

def lossShown? (connection : Connection Bench) (error : Option WalletError) : Option Unbacked :=
  if connection.cancelled || connection.session.connecting then none else error.map .lost

def noticeShown? (connection : Connection Bench) (token : Token) (notice : Notice) :
    Option Unbacked :=
  if connection.cancelled || connection.session.token ≠ some token
      || connection.session.adapter.isSome || notice.kind = .disconnected then none
  else some (.noticed notice connection.session.wallet)

end Connection

variable {Bench : Type} [AdapterBench Bench]

/-- One move, with what it shows if it leaves the session without an adapter. -/
inductive Move (evolves : Bench → Bench → Prop) :
    Situation Bench → Option Unbacked → Situation Bench → Prop where
  | serve {connection flights isOver} (bench : Bench) (signals : List Signal) :
      evolves connection.bench bench →
      Move evolves ⟨connection, flights, isOver⟩ none
        ⟨({ connection with bench := bench }).deliver signals, flights, isOver⟩
  | takeOver {connection flights isOver} (wallet : Wallet) (deviceId : Option String) :
      connection.cancelled = false →
      Move evolves ⟨connection, flights, isOver⟩ none
        ⟨(connection.beginAttempt wallet deviceId).1,
          .attempt (connection.lastToken + 1) none ::ₘ flights, isOver⟩
  | giveWay {connection token flights isOver} :
      (connection.interruption? token).isSome →
      Move evolves ⟨connection, .attempt token none ::ₘ flights, isOver⟩ none
        ⟨connection, flights, isOver⟩
  | locate {connection token flights isOver} (deviceId : String) :
      connection.interruption? token = none →
      Move evolves ⟨connection, .attempt token none ::ₘ flights, isOver⟩ none
        ⟨connection.setSession { connection.session with deviceId := some deviceId },
          .attempt token none ::ₘ flights, isOver⟩
  | install {connection token flights isOver bench adapter} (wallet : Wallet) :
      connection.interruption? token = none → connection.session.deviceId.isSome →
      AdapterBench.create connection.bench wallet token = (bench, .ok adapter) →
      Move evolves ⟨connection, .attempt token none ::ₘ flights, isOver⟩ none
        ⟨({ connection with bench := bench }).setSession
            { connection.session with adapter := some adapter },
          .attempt token (some adapter) ::ₘ flights, isOver⟩
  | connect {connection token adapter flights isOver} :
      connection.interruption? token = none →
      Move evolves ⟨connection, .attempt token (some adapter) ::ₘ flights, isOver⟩ none
        ⟨(connection.setSession { connection.session with connecting := false }).publish
            .connected,
          flights, isOver⟩
  | fail {connection token adapter flights isOver} (error : WalletError) :
      connection.interruption? token = none →
      Move evolves ⟨connection, .attempt token adapter ::ₘ flights, isOver⟩ (some (.lost error))
        ⟨(connection.failAttempt error).1, flights, isOver⟩
  | discard {connection token adapter flights isOver} :
      (connection.interruption? token).isSome →
      Move evolves ⟨connection, .attempt token (some adapter) ::ₘ flights, isOver⟩ none
        ⟨connection.discard adapter, flights, isOver⟩
  | leave {connection flights isOver adapter} :
      connection.session.adapter = some adapter →
      Move evolves ⟨connection, flights, isOver⟩ none
        ⟨connection.supersede, .disconnect (connection.lastToken + 1) adapter ::ₘ flights, isOver⟩
  | leaveNothing {connection flights isOver} :
      connection.session.adapter = none →
      Move evolves ⟨connection, flights, isOver⟩ none
        ⟨connection.supersede.finishDisconnect (connection.lastToken + 1), flights, isOver⟩
  | left {connection flights isOver} (call : DisconnectCall) :
      Move evolves ⟨connection, .disconnect call.token call.adapter ::ₘ flights, isOver⟩ none
        ⟨connection.disconnectAnswered call, flights, isOver⟩
  | reset {connection flights isOver} :
      Move evolves ⟨connection, flights, isOver⟩ none ⟨connection.reset, flights, isOver⟩
  | teardown {connection flights isOver} :
      Move evolves ⟨connection, flights, isOver⟩ none ⟨connection.teardown, flights, true⟩
  | cancel {connection flights isOver} :
      Move evolves ⟨connection, flights, isOver⟩ none ⟨connection.cancel, flights, true⟩
  | clearError {connection flights isOver} :
      Move evolves ⟨connection, flights, isOver⟩ none ⟨connection.clearError, flights, isOver⟩
  | lose {connection flights isOver} (error : Option WalletError) :
      Move evolves ⟨connection, flights, isOver⟩ (connection.lossShown? error)
        ⟨connection.handleDisconnect error, flights, isOver⟩
  | notice {connection flights isOver} (token : Token) (notice : Notice) :
      Move evolves ⟨connection, flights, isOver⟩ (connection.noticeShown? token notice)
        ⟨connection.handleNotice token notice, flights, isOver⟩
  | inbox {connection flights isOver} (inbox : List Signal) (isOpen : Bool) :
      Move evolves ⟨connection, flights, isOver⟩ none
        ⟨{ connection with inbox := inbox, inboxOpen := isOpen }, flights, isOver⟩
  | hold {connection flights isOver token} :
      connection.session.adapter.isSome → connection.session.token = some token →
      Move evolves ⟨connection, flights, isOver⟩ none
        ⟨connection, .verification token ::ₘ flights, isOver⟩
  | verify {connection token flights isOver} (wallet : Wallet) (answer : AdapterAnswer) :
      Move evolves ⟨connection, .verification token ::ₘ flights, isOver⟩ none
        ⟨(connection.verifyAnswered token wallet answer).1, flights, isOver⟩
  | operate {connection flights isOver token} :
      connection.session.adapter.isSome → connection.session.token = some token →
      Move evolves ⟨connection, flights, isOver⟩ none
        ⟨if connection.cancelled then connection else connection.publish .awaitingConfirmation,
          .operation token ::ₘ flights, isOver⟩
  | operated {connection flights isOver} (call : OperationCall) :
      Move evolves ⟨connection, .operation call.token ::ₘ flights, isOver⟩ none
        ⟨(connection.operationAnswered call).1, flights, isOver⟩

theorem Move.isOver_of {evolves : Bench → Bench → Prop} {before after : Situation Bench}
    {shown : Option Unbacked} (move : Move evolves before shown after)
    (goesOn : after.isOver = false) :
    before.isOver = false ∧ after.connection.cancelled = before.connection.cancelled := by
  cases move
  case teardown | cancel => cases goesOn
  case operate => exact ⟨goesOn, by split <;> simp⟩
  all_goals exact ⟨goesOn, by simp⟩

theorem Move.live_of {evolves : Bench → Bench → Prop} {before after : Situation Bench}
    {shown : Option Unbacked} (move : Move evolves before shown after)
    (live : after.connection.cancelled = false) : before.connection.cancelled = false := by
  cases move
  case cancel => cases live
  case operate => split at live <;> simpa using live
  all_goals simpa using live

/-- Moves one after the other. Only the last one may show something without an adapter. -/
inductive Moves (evolves : Bench → Bench → Prop) :
    Situation Bench → Option Unbacked → Situation Bench → Prop where
  | done (before : Situation Bench) : Moves evolves before none before
  | last {before after : Situation Bench} {shown : Unbacked} :
      Move evolves before (some shown) after → Moves evolves before (some shown) after
  | next {before middle after : Situation Bench} {shown : Option Unbacked} :
      Move evolves before none middle → Moves evolves middle shown after →
      Moves evolves before shown after

namespace Moves

variable {evolves : Bench → Bench → Prop} {before middle after : Situation Bench}
  {shown : Option Unbacked}

theorem one (move : Move evolves before shown after) : Moves evolves before shown after := by
  cases shown with
  | none => exact .next move (.done after)
  | some shown => exact .last move

theorem append (first : Moves evolves before none middle)
    (rest : Moves evolves middle shown after) : Moves evolves before shown after := by
  generalize silent : (none : Option Unbacked) = label at first
  induction first with
  | done => exact rest
  | last => cases silent
  | next move _ ih => exact .next move (ih rest silent)

theorem keep {invariant : Situation Bench → Prop}
    (step : ∀ {before shown after}, Move evolves before shown after →
      invariant before → invariant after)
    (moves : Moves evolves before shown after) (start : invariant before) : invariant after := by
  induction moves with
  | done => exact start
  | last move => exact step move start
  | next move _ ih => exact ih (step move start)

theorem isOver_of (moves : Moves evolves before shown after) (goesOn : after.isOver = false) :
    before.isOver = false ∧ after.connection.cancelled = before.connection.cancelled := by
  induction moves with
  | done => exact ⟨goesOn, rfl⟩
  | last move => exact move.isOver_of goesOn
  | next move _ ih =>
      obtain ⟨between, later⟩ := ih goesOn
      obtain ⟨start, first⟩ := move.isOver_of between
      exact ⟨start, later.trans first⟩

end Moves

end SignerLink
