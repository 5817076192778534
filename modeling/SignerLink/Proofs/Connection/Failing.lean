import SignerLink.Proofs.Connection.Fields
/-!
How an attempt fails. It waits under its own token only, and once it has failed there is no
session any more.
-/

namespace SignerLink

namespace Connection

variable {Bench : Type} {connection : Connection Bench} {token : Token}

structure Pursues (token : Token) (result : Connection Bench × AttemptProgress) : Prop where
  waits : ∀ call milliseconds, result.2 = .waiting call milliseconds → call.token = token
  failed : ∀ error, result.2 = .finished (.failed error) → result.1.session.token = none

theorem interruption?_ne_failed {error : WalletError} :
    connection.interruption? token ≠ some (.failed error) := by
  simp only [interruption?]
  split
  · nofun
  · split <;> nofun

namespace Pursues

theorem waiting {call : AttemptCall} (same : call.token = token) (milliseconds : Nat) :
    Pursues token (connection, .waiting call milliseconds) where
  waits other _ waits := by
    cases waits
    exact same
  failed _ ends := by cases ends

theorem finished {outcome : ConnectOutcome}
    (released : ∀ error, outcome = .failed error → connection.session.token = none) :
    Pursues token (connection, .finished outcome) where
  waits _ _ waits := by cases waits
  failed error ends := by
    cases ends
    exact released error rfl

theorem interrupted {outcome : ConnectOutcome}
    (given : connection.interruption? token = some outcome) {next : Connection Bench} :
    Pursues token (next, .finished outcome) := by
  refine finished fun error same => ?_
  rw [same] at given
  exact absurd given interruption?_ne_failed

theorem failAttempt [AdapterBench Bench] (error : WalletError) :
    Pursues token ((connection.failAttempt error).1,
      .finished (connection.failAttempt error).2) :=
  finished fun _ _ => by simp

end Pursues

variable [AdapterBench Bench]

theorem connectAnswered_pursues (wallet : Wallet) (adapter : AdapterId) (answer : AdapterAnswer) :
    Pursues token ((connection.connectAnswered token wallet adapter answer).1,
      .finished (connection.connectAnswered token wallet adapter answer).2) := by
  cases given : connection.interruption? token with
  | some outcome =>
      simp only [connectAnswered, given]
      exact .interrupted given
  | none =>
      cases answer with
      | error error =>
          simp only [connectAnswered, given]
          exact .failAttempt _
      | ok value =>
          simp only [connectAnswered, given]
          exact .finished fun error same => by cases same

theorem openAdapter_pursues (wallet : Wallet) (deviceId : String) :
    Pursues token (connection.openAdapter token wallet deviceId) := by
  simp only [openAdapter]
  split
  next => exact .failAttempt _
  next =>
    split
    next milliseconds _ =>
      refine .waiting ?_ milliseconds
      rfl
    next => apply connectAnswered_pursues

theorem searched_pursues (wallet : Wallet) (found : DeviceSearch) :
    Pursues token (connection.searched token wallet found) := by
  simp only [searched]
  split
  next given => exact .interrupted given
  next =>
    split
    next deviceId => exact openAdapter_pursues wallet deviceId
    next => exact .failAttempt _
    next => exact .failAttempt _

theorem connect_pursues (wallet : Wallet) (target : Target) :
    ∃ token, Pursues token (connection.connect wallet target) := by
  simp only [connect]
  split
  next => exact ⟨0, .finished fun error same => by cases same⟩
  next =>
    split
    next deviceId => exact ⟨_, openAdapter_pursues wallet deviceId⟩
    next found milliseconds =>
      split
      next => exact ⟨_, searched_pursues wallet found⟩
      next =>
        refine ⟨(connection.beginAttempt wallet none).2, .waiting ?_ milliseconds⟩
        rfl

theorem resumeAttempt_pursues (call : AttemptCall) :
    Pursues call.token (connection.resumeAttempt call) := by
  cases call with
  | searching token wallet found => exact searched_pursues wallet found
  | connecting token wallet deviceId adapter => exact connectAnswered_pursues wallet adapter _

end Connection

end SignerLink
