import Mathlib.Data.Multiset.AddSub
import Mathlib.Logic.Relation
import SignerLink.Connection.Inbox
import SignerLink.Connection.Operation
import SignerLink.Connection.Readiness
import SignerLink.Connection.Release
/-!
Runs of a connection. Any number of calls are under way at once. Each of them is resumed whenever
it happens to be, and what happens to the session or its devices comes in between. A step is all
that is done from one point where a call may wait to the next.
-/

namespace SignerLink

inductive ConnectionRequest where
  | connect (wallet : Wallet) (target : Target)
  | disconnect
  | makeReady (wallet : Wallet) (wanted : Option String) (found : DeviceSearch)
      (milliseconds : Nat)
  | operate (operation : Operation)

inductive ConnectionEvent where
  | reset
  | teardown
  | cancel
  | clearError
  | lost (error : Option WalletError)
  | noticed (token : Token) (notice : Notice)
  | pump
  | closeInbox

def ConnectionEvent.isEnd : ConnectionEvent → Bool
  | .teardown | .cancel => true
  | _ => false

inductive ConnectionCall where
  | attempt (call : AttemptCall)
  | readiness (call : ReadinessCall)
  | disconnect (call : DisconnectCall)
  | operation (call : OperationCall)

def ConnectionCall.token : ConnectionCall → Token
  | .attempt call => call.token
  | .readiness (.attempting _ call) => call.token
  | .readiness (.verifying token _ _ _) => token
  | .disconnect call => call.token
  | .operation call => call.token

inductive ConnectionReply where
  | attempt (outcome : ConnectOutcome)
  | ready (yes : Bool)
  | disconnected
  | operation (result : OperationResult)

abbrev ConnectionProgress := Progress ConnectionCall ConnectionReply

def Progress.calls {Call Outcome : Type} : Progress Call Outcome → Multiset Call
  | .waiting call _ => {call}
  | .finished _ => 0

def Target.wanted (deviceId : Option String) (found : DeviceSearch) (milliseconds : Nat) :
    Target :=
  match deviceId with
  | some id => .device id
  | none => .search found milliseconds

namespace Connection

variable {Bench : Type} [AdapterBench Bench]

/-- Makes a wallet's device ready, over a new attempt unless the session's adapter serves. -/
def makeReady (connection : Connection Bench) (wallet : Wallet) (wanted : Option String)
    (found : DeviceSearch) (milliseconds : Nat) : Connection Bench × ReadinessProgress :=
  match connection.readiness wallet wanted with
  | .refused => (connection, .finished false)
  | .held token deviceId adapter => connection.verify token wallet deviceId adapter
  | .wanting deviceId =>
      connection.connectReady wallet (.wanted deviceId found milliseconds)

def begin (connection : Connection Bench) (request : ConnectionRequest) :
    Connection Bench × ConnectionProgress :=
  match request with
  | .connect wallet target =>
      (connection.connect wallet target).map id (Progress.map .attempt .attempt)
  | .disconnect => connection.disconnect.map id (Progress.map .disconnect fun _ => .disconnected)
  | .makeReady wallet wanted found milliseconds =>
      (connection.makeReady wallet wanted found milliseconds).map id
        (Progress.map .readiness .ready)
  | .operate operation =>
      (connection.operate operation).map id (Progress.map .operation .operation)

def resume (connection : Connection Bench) (call : ConnectionCall) :
    Connection Bench × ConnectionProgress :=
  match call with
  | .attempt call => (connection.resumeAttempt call).map id (Progress.map .attempt .attempt)
  | .readiness call =>
      (connection.resumeReadiness call).map id (Progress.map .readiness .ready)
  | .disconnect call =>
      (connection.resumeDisconnect call).map id
        (Progress.map .disconnect fun _ => .disconnected)
  | .operation call =>
      (connection.resumeOperation call).map id (Progress.map .operation .operation)

def react (connection : Connection Bench) (event : ConnectionEvent) : Connection Bench :=
  match event with
  | .reset => connection.reset
  | .teardown => connection.teardown
  | .cancel => connection.cancel
  | .clearError => connection.clearError
  | .lost error => connection.handleDisconnect error
  | .noticed token notice => connection.handleNotice token notice
  | .pump => connection.pump
  | .closeInbox => connection.closeInbox

end Connection

structure Run (Bench : Type) where
  connection : Connection Bench
  calls : Multiset ConnectionCall := 0
  /-- The session was cancelled or torn down. -/
  isOver : Bool := false

namespace Run

variable {Bench : Type}

def start (bench : Bench) : Run Bench := { connection := { bench := bench } }

variable [AdapterBench Bench]

def begin (run : Run Bench) (request : ConnectionRequest) : Run Bench :=
  { run with
    connection := (run.connection.begin request).1
    calls := (run.connection.begin request).2.calls + run.calls }

def react (run : Run Bench) (event : ConnectionEvent) : Run Bench :=
  { run with
    connection := run.connection.react event
    isOver := run.isOver || event.isEnd }

/-- One step. Between the steps of calls the bench may evolve by itself, as far as the relation
allows, and its adapters may send signals. -/
inductive Step (evolves : Bench → Bench → Prop) : Run Bench → Run Bench → Prop where
  | begin (run : Run Bench) (request : ConnectionRequest) : Step evolves run (run.begin request)
  | resume (connection : Connection Bench) (call : ConnectionCall)
      (others : Multiset ConnectionCall) (isOver : Bool) :
      Step evolves ⟨connection, call ::ₘ others, isOver⟩
        ⟨(connection.resume call).1, (connection.resume call).2.calls + others, isOver⟩
  | react (run : Run Bench) (event : ConnectionEvent) : Step evolves run (run.react event)
  | onBench (run : Run Bench) (change : Bench → Bench × List Signal) :
      evolves run.connection.bench (change run.connection.bench).1 →
      Step evolves run { run with connection := run.connection.onBench change }

abbrev Steps (evolves : Bench → Bench → Prop) : Run Bench → Run Bench → Prop :=
  Relation.ReflTransGen (Step evolves)

omit [AdapterBench Bench] in
def along (run : Run Bench) (call : ConnectionCall) : Run Bench :=
  { run with calls := call ::ₘ run.calls }

theorem Step.along {evolves : Bench → Bench → Prop} {before after : Run Bench}
    (step : Step evolves before after) (call : ConnectionCall) :
    Step evolves (before.along call) (after.along call) := by
  cases step with
  | begin _ request =>
      have same : (before.begin request).along call = (before.along call).begin request := by
        simp only [Run.along, Run.begin, Multiset.add_cons]
      rw [same]
      exact .begin _ request
  | resume connection other others isOver =>
      simp only [Run.along, Multiset.cons_swap _ other, ← Multiset.add_cons]
      exact .resume connection other (call ::ₘ others) isOver
  | react _ event => exact .react _ event
  | onBench _ change evolved => exact .onBench _ change evolved

theorem Step.isOver_of {evolves : Bench → Bench → Prop} {before after : Run Bench}
    (step : Step evolves before after) (goesOn : after.isOver = false) :
    before.isOver = false := by
  cases step with
  | begin _ _ | resume _ _ _ _ | onBench _ _ _ => exact goesOn
  | react _ event => exact (Bool.or_eq_false_iff.mp goesOn).1

theorem Steps.isOver_of {evolves : Bench → Bench → Prop} {before after : Run Bench}
    (steps : Steps evolves before after) (goesOn : after.isOver = false) :
    before.isOver = false := by
  induction steps with
  | refl => exact goesOn
  | tail _ step ih => exact ih (step.isOver_of goesOn)

def Reachable (evolves : Bench → Bench → Prop) (run : Run Bench) : Prop :=
  ∃ bench, Steps evolves (start bench) run

end Run

end SignerLink
