import SignerLink.Proofs.Connection.Clearing
import SignerLink.Proofs.Connection.Operating
/-!
What is shown while operations run. Each operation shows that it has started and how it has ended,
and knows nothing of the others. While several of them are under way, the latest of these moments
decides: a confirmation is awaited if an operation has started, but no longer once one has ended,
even if others still run.
-/

namespace SignerLink

namespace OperationResult

def event (result : OperationResult) : StateEvent :=
  match result.result with
  | .ok _ => .ready
  | .error error => .ofError error

theorem event_isVerdict (result : OperationResult) : result.event.isVerdict = true := by
  simp only [event]
  split
  · rfl
  · exact StateEvent.ofError_isVerdict _

end OperationResult

inductive OperationMoment where
  | started
  | ended (result : OperationResult)

namespace OperationMoment

def event : OperationMoment → StateEvent
  | .started => .awaitingConfirmation
  | .ended result => result.event

/-- The moments of an operation that has just begun, the latest first. One that takes no time has
already ended, and one that was refused has not started. -/
def ofProgress : Connection.OperationProgress → List OperationMoment
  | .waiting _ _ => [.started]
  | .finished ⟨some view, result⟩ => [.ended ⟨some view, result⟩, .started]
  | .finished ⟨none, _⟩ => []

theorem event_ne_disconnected (moment : OperationMoment) : moment.event ≠ .disconnected := by
  cases moment with
  | started => nofun
  | ended result =>
      intro hidden
      have verdict := result.event_isVerdict
      rw [show result.event = .disconnected from hidden] at verdict
      cases verdict

theorem event_target_iff (moment : OperationMoment) :
    moment.event.target = .awaitingConfirmation ↔ moment = .started := by
  cases moment with
  | started => simp [event, StateEvent.target]
  | ended result =>
      have verdict := result.event_isVerdict
      simp only [event, reduceCtorEq, iff_false]
      intro awaiting
      cases shown : result.event <;> simp_all [StateEvent.target, StateEvent.isVerdict]

end OperationMoment

namespace Connection

variable {Bench : Type} {connection : Connection Bench}

theorem operationAnswered_current {call : OperationCall}
    (current : connection.interruption? call.token = none) :
    (connection.operationAnswered call).1 =
      connection.publish (OperationMoment.ended (connection.operationAnswered call).2).event := by
  have shown : (connection.operationAnswered call).2.event = call.event := by
    cases answer : call.answer <;>
      simp [operationAnswered, OperationResult.event, OperationCall.event, answer, Except.mapError]
  rw [operationAnswered_eq, current, OperationMoment.event, shown]
  rfl

theorem publish_moment_alike (connection : Connection Bench) (moment : OperationMoment) :
    (connection.publish moment.event).state.alike moment.event.target :=
  connection.publish_alike (.inr moment.event_ne_disconnected)

variable [AdapterBench Bench]

theorem operate_cases (operation : Operation) (goesOn : connection.cancelled = false) :
    (∃ error, connection.operate operation = (connection, .finished ⟨none, .error error⟩)) ∨
      ∃ call : OperationCall, connection.session.token = some call.token ∧
        (connection.operate operation =
            (connection.publish .awaitingConfirmation,
              .waiting call operation.milliseconds) ∨
          connection.operate operation =
            (((connection.publish .awaitingConfirmation).operationAnswered call).1,
              .finished
                ((connection.publish .awaitingConfirmation).operationAnswered call).2)) := by
  cases held : connection.session.adapter with
  | none => exact .inl ⟨_, connection.operate_refuses operation (.inl held)⟩
  | some adapter =>
      cases current : connection.session.token with
      | none => exact .inl ⟨_, connection.operate_refuses operation (.inr current)⟩
      | some token =>
          simp only [operate, held, current, goesOn, Bool.false_eq_true, if_false]
          by_cases instant : operation.milliseconds = 0
          · exact .inr ⟨_, rfl, .inr (by rw [if_pos instant])⟩
          · exact .inr ⟨_, rfl, .inl (by rw [if_neg instant])⟩

end Connection

namespace Run

variable {Bench : Type} [AdapterBench Bench]

/-- Runs in which operations start and end, in any order, and nothing else happens. Beside the
run stand the moments so far, the latest first, and the operations that are under way. -/
inductive Operates (first : Run Bench) :
    List OperationMoment → Multiset OperationCall → Run Bench → Prop where
  | none : Operates first [] 0 first
  | begin {moments running run} (operation : Operation) : Operates first moments running run →
      Operates first
        (OperationMoment.ofProgress (run.connection.operate operation).2 ++ moments)
        ((run.connection.operate operation).2.calls + running)
        (run.begin (.operate operation))
  | resume {moments running connection others isOver} (call : OperationCall) :
      Operates first moments (call ::ₘ running)
        ⟨connection, .operation call ::ₘ others, isOver⟩ →
      Operates first (.ended (connection.operationAnswered call).2 :: moments) running
        ⟨(connection.resume (.operation call)).1,
          (connection.resume (.operation call)).2.calls + others, isOver⟩

variable {first run : Run Bench} {moments : List OperationMoment}
  {running : Multiset OperationCall}

/-- Such runs are among the runs of the connection, whatever the bench may do besides. -/
theorem Operates.steps (operates : first.Operates moments running run)
    (evolves : Bench → Bench → Prop) : Steps evolves first run := by
  induction operates with
  | none => exact .refl
  | begin operation _ ih => exact .tail ih (.begin _ _)
  | resume call _ ih => exact .tail ih (.resume _ _ _ _)

/-- What operations keep of the session, and what is shown. -/
structure Operating (first : Run Bench) (moments : List OperationMoment)
    (running : Multiset OperationCall) (run : Run Bench) : Prop where
  goesOn : run.connection.cancelled = false
  session : run.connection.session = first.connection.session
  calls : run.calls = running.map .operation + first.calls
  current : ∀ call ∈ running, run.connection.session.token = some call.token
  begun : moments = [] → running = 0
  shown : ∀ moment earlier, moments = moment :: earlier →
    run.connection.state.alike moment.event.target

omit [AdapterBench Bench] in
theorem Operating.none (goesOn : first.connection.cancelled = false) :
    first.Operating [] 0 first := by
  refine ⟨goesOn, rfl, ?_, ?_, fun _ => rfl, ?_⟩
  · rw [Multiset.map_zero, Multiset.zero_add]
  · intro call under
    exact absurd under (Multiset.notMem_zero call)
  · intro _ _ history
    cases history

theorem Operating.begin (operating : first.Operating moments running run)
    (operation : Operation) :
    first.Operating (OperationMoment.ofProgress (run.connection.operate operation).2 ++ moments)
      ((run.connection.operate operation).2.calls + running)
      (run.begin (.operate operation)) := by
  have begun : run.begin (.operate operation) =
      { run with
        connection := (run.connection.operate operation).1
        calls := (run.connection.operate operation).2.calls.map .operation + run.calls } := by
    simp only [Run.begin, Connection.begin, Prod.map, id]
    cases (run.connection.operate operation).2 <;> rfl
  rw [begun]
  rcases run.connection.operate_cases operation operating.goesOn with
    ⟨error, refused⟩ | ⟨call, token, waits | ends⟩
  · simpa [refused, OperationMoment.ofProgress, Progress.calls] using operating
  · simp only [waits, OperationMoment.ofProgress, Progress.calls, Multiset.map_singleton,
      Multiset.singleton_add, List.singleton_append]
    refine ⟨by simpa using operating.goesOn, by simpa using operating.session, ?_, ?_,
      (absurd · (List.cons_ne_nil _ _)), ?_⟩
    · rw [operating.calls, Multiset.map_cons, Multiset.cons_add]
    · intro other under
      rw [Connection.publish_session]
      rcases Multiset.mem_cons.mp under with rfl | earlier
      · exact token
      · exact operating.current other earlier
    · rintro _ _ ⟨⟩
      exact run.connection.publish_moment_alike .started
  · have current : (run.connection.publish .awaitingConfirmation).interruption? call.token =
        .none := Connection.interruption?_eq_none.mpr
      ⟨by simpa using operating.goesOn, by simpa using token⟩
    have latest : OperationMoment.ofProgress (run.connection.operate operation).2 =
        [.ended ((run.connection.publish .awaitingConfirmation).operationAnswered call).2,
          .started] := by
      rw [ends]
      rfl
    rw [latest, ends]
    refine ⟨by simpa using operating.goesOn, by simpa using operating.session,
      by simpa [Progress.calls] using operating.calls,
      by simpa [Progress.calls] using operating.current, (absurd · (List.cons_ne_nil _ _)), ?_⟩
    rintro _ _ ⟨⟩
    rw [Connection.operationAnswered_current current]
    exact Connection.publish_moment_alike _ _

theorem Operating.resume {connection : Connection Bench} {others : Multiset ConnectionCall}
    {isOver : Bool} {call : OperationCall}
    (operating : first.Operating moments (call ::ₘ running)
      ⟨connection, .operation call ::ₘ others, isOver⟩) :
    first.Operating (.ended (connection.operationAnswered call).2 :: moments) running
      ⟨(connection.resume (.operation call)).1,
        (connection.resume (.operation call)).2.calls + others, isOver⟩ := by
  have resumed : connection.resume (.operation call) =
      ((connection.operationAnswered call).1,
        .finished (.operation (connection.operationAnswered call).2)) := rfl
  have current : connection.interruption? call.token = .none :=
    Connection.interruption?_eq_none.mpr
      ⟨operating.goesOn, operating.current call (Multiset.mem_cons_self ..)⟩
  rw [resumed]
  refine ⟨?_, ?_, ?_, ?_, (absurd · (List.cons_ne_nil _ _)), ?_⟩
  · simpa using operating.goesOn
  · simpa using operating.session
  · have calls := operating.calls
    rw [Multiset.map_cons, Multiset.cons_add] at calls
    simpa [Progress.calls] using (Multiset.cons_inj_right _).mp calls
  · intro other under
    simpa using operating.current other (Multiset.mem_cons_of_mem under)
  · rintro _ _ ⟨⟩
    rw [Connection.operationAnswered_current current]
    exact Connection.publish_moment_alike _ _

theorem Operates.operating (operates : first.Operates moments running run)
    (goesOn : first.connection.cancelled = false) : first.Operating moments running run := by
  induction operates with
  | none => exact .none goesOn
  | begin operation _ ih => exact ih.begin operation
  | resume call _ ih => exact ih.resume

/-- While operations run and nothing else happens, a confirmation is awaited exactly when the
latest that any of them has shown is that it has started. If the latest is that one has ended, its
result is shown, however many still run. -/
theorem confirmation_shown_iff (goesOn : first.connection.cancelled = false)
    (operates : first.Operates moments running run) (busy : running ≠ 0) :
    ∃ latest earlier, moments = latest :: earlier ∧
      (run.connection.state = .awaitingConfirmation ↔ latest = .started) ∧
      ∀ result, latest = .ended result → run.connection.state.alike result.event.target := by
  have operating := operates.operating goesOn
  cases history : moments with
  | nil => exact absurd (operating.begun history) busy
  | cons latest earlier =>
      have shown := operating.shown latest earlier history
      refine ⟨latest, earlier, rfl, ?_, ?_⟩
      · rw [ConnectionState.alike_awaitingConfirmation shown, latest.event_target_iff]
      · rintro result rfl
        exact shown

def attached : Run SimulatedBench := (start {}).begin (.connect .ledger (.device "left"))

def signing : Operation := { answer := .ok .null, milliseconds := 20 }

def glancing : Operation := { answer := .ok .null, milliseconds := 10 }

def startedCall : OperationCall where
  token := 1
  wallet := some .ledger
  view := ⟨.awaitingConfirmation, some .ledger⟩
  answer := .ok .null

def bothSigning : Run SimulatedBench where
  connection := ((attached.begin (.operate signing)).begin (.operate glancing)).connection
  calls := .operation startedCall ::ₘ {.operation startedCall}

theorem bothSigning_operates :
    attached.Operates [.started, .started] (startedCall ::ₘ {startedCall}) bothSigning :=
  .begin glancing (.begin signing .none)

def halfDone : Run SimulatedBench where
  connection := (bothSigning.connection.resume (.operation startedCall)).1
  calls := 0 + {.operation startedCall}

theorem halfDone_operates :
    attached.Operates
      [.ended ⟨some startedCall.view, .ok .null⟩, .started, .started] {startedCall} halfDone :=
  .resume startedCall bothSigning_operates

theorem confirmation_shown_iff_halfDone : halfDone.connection.state = .ready := by
  obtain ⟨_, _, history, _, shown⟩ := confirmation_shown_iff (by rfl) halfDone_operates
    (Multiset.singleton_ne_zero _)
  cases history
  exact ConnectionState.eq_of_alike (shown _ rfl) rfl

theorem confirmation_not_shown_while_signing :
    ¬∀ (first run : Run SimulatedBench) (moments : List OperationMoment)
        (running : Multiset OperationCall),
      first.Reachable FreshBench.evolves → first.connection.cancelled = false →
      first.connection.IsLive → first.Operates moments running run → running ≠ 0 →
        run.connection.state = .awaitingConfirmation := by
  intro always
  have shown := always attached halfDone _ _ ⟨_, .tail .refl (.begin _ _)⟩ rfl ⟨rfl, rfl⟩
    halfDone_operates (Multiset.singleton_ne_zero _)
  cases shown

end Run

end SignerLink
