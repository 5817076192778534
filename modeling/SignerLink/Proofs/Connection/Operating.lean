import SignerLink.Proofs.Connection.Engaged
import SignerLink.Proofs.Connection.Settled
/-!
On which adapters operations run. An operation starts on whatever adapter the session holds. That
adapter is live, unless an attempt is still connecting it, or was overtaken by a disconnect while
it did, or the device is gone.
-/

namespace SignerLink

theorem noWalletConnected_code (wallet : Option Wallet) :
    (noWalletConnected wallet).code = .deviceDisconnected := by
  cases wallet <;> rfl

namespace Connection

variable {Bench : Type} {connection : Connection Bench}

def view? : OperationProgress → Option OperationView
  | .waiting call _ => some call.view
  | .finished result => result.view

variable [AdapterBench Bench]

/-- The session's adapter has connected for the latest attempt and still has its device. -/
structure IsLive (connection : Connection Bench) : Prop where
  still : connection.session.connecting = false
  connected : connection.isAdapterConnected = true

theorem operate_starts {adapter : AdapterId} {token : Token} (operation : Operation)
    (held : connection.session.adapter = some adapter)
    (current : connection.session.token = some token) :
    view? (connection.operate operation).2 =
      some ⟨if connection.cancelled then connection.state else .awaitingConfirmation,
        AdapterBench.walletOf connection.bench adapter⟩ := by
  have seen : (if connection.cancelled then connection
      else connection.publish .awaitingConfirmation).state =
        if connection.cancelled then connection.state else .awaitingConfirmation := by
    by_cases cancelled : connection.cancelled
    · simp only [cancelled, if_true]
    · simp only [cancelled, Bool.false_eq_true, if_false]
      exact connection.publish_state (.inr nofun) rfl
  simp only [operate, held, current, ← seen]
  by_cases instant : operation.milliseconds = 0
  · simp only [instant, if_true, view?, operationAnswered]
  · simp only [instant, if_false, view?]

theorem operate_refuses (operation : Operation)
    (lacking : connection.session.adapter = none ∨ connection.session.token = none) :
    connection.operate operation =
      (connection, .finished ⟨none, .error (noWalletConnected connection.session.wallet)⟩) := by
  rcases lacking with noAdapter | noToken
  · simp only [operate, noAdapter]
  · cases held : connection.session.adapter with
    | none => simp only [operate, held]
    | some adapter => simp only [operate, held, noToken]

theorem view?_isSome_iff (operation : Operation) :
    (view? (connection.operate operation).2).isSome ↔
      connection.session.adapter.isSome ∧ connection.session.token.isSome := by
  constructor
  · intro starts
    by_contra lacking
    have refused := connection.operate_refuses operation (by
      rw [← Option.not_isSome_iff_eq_none, ← Option.not_isSome_iff_eq_none]
      exact not_and_or.mp lacking)
    rw [refused] at starts
    cases starts
  · rintro ⟨holding, owned⟩
    obtain ⟨adapter, held⟩ := Option.isSome_iff_exists.mp holding
    obtain ⟨token, current⟩ := Option.isSome_iff_exists.mp owned
    rw [operate_starts operation held current]
    rfl

end Connection

variable {Bench : Type} [AdapterBench Bench]

/-- Why an adapter that the session holds is not live. -/
inductive Situation.Unready (situation : Situation Bench) (adapter : AdapterId) : Prop where
  | connecting (token : Token) : situation.connection.session.token = some token →
      .attempt token (some adapter) ∈ situation.flights → Unready situation adapter
  | cutOff (token : Token) : situation.connection.session.token = some token →
      .disconnect token adapter ∈ situation.flights →
      situation.connection.session.connecting = true → Unready situation adapter
  | gone : AdapterBench.isConnected situation.connection.bench adapter = false →
      Unready situation adapter

namespace Situation

variable {situation : Situation Bench} {adapter : AdapterId}

theorem Unready.not_isLive (engaged : situation.Engaged)
    (held : situation.connection.session.adapter = some adapter)
    (unready : situation.Unready adapter) : ¬situation.connection.IsLive := by
  intro live
  have still := live.still
  cases unready with
  | connecting token current flies =>
      have busy := engaged.attempts token (some adapter) current flies
      rw [still] at busy
      cases busy
  | cutOff token _ _ busy =>
      rw [still] at busy
      cases busy
  | gone lost =>
      have connected := live.connected
      rw [Connection.isAdapterConnected, held, Option.any_some, lost] at connected
      cases connected

theorem unready_of_not_isLive
    (led : Led situation.connection.session situation.flights)
    (held : situation.connection.session.adapter = some adapter)
    (unlive : ¬situation.connection.IsLive) : situation.Unready adapter := by
  by_cases connected : AdapterBench.isConnected situation.connection.bench adapter = true
  · have busy : situation.connection.session.connecting = true := by
      by_contra still
      refine unlive ⟨by simpa using still, ?_⟩
      rw [Connection.isAdapterConnected, held, Option.any_some, connected]
    cases led with
    | idle _ noAdapter _ => cases noAdapter.symm.trans held
    | searching _ _ noAdapter _ _ _ => cases noAdapter.symm.trans held
    | connecting token _ current same _ _ alone _ =>
        cases same.symm.trans held
        exact .connecting token current (mem_of_owners_eq alone).1
    | connected _ _ _ _ still _ _ _ _ =>
        rw [still] at busy
        cases busy
    | leaving token other current kept alone =>
        have same : other = adapter := by
          rcases kept with none | same
          · cases none.symm.trans held
          · exact Option.some.inj (same.symm.trans held)
        exact .cutOff token current (same ▸ (mem_of_owners_eq alone).1) busy
  · exact .gone (by simpa using connected)

end Situation

theorem Led.token_of_adapter {session : Session} {flights : Multiset Flight}
    (led : Led session flights) (holding : session.adapter.isSome) : session.token.isSome := by
  cases led with
  | idle _ noAdapter _ =>
      rw [noAdapter] at holding
      cases holding
  | searching _ current | connecting _ _ current | connected _ _ current
  | leaving _ _ current => simp [current]

namespace Run

variable [FreshBench Bench] {run : Run Bench}

/-- An operation asks for an adapter and no more. While the session goes on, the adapter it starts
on is not live exactly when an attempt is still connecting it, a disconnect under way has overtaken
such an attempt, or the device is gone. -/
theorem operation_without_live_adapter_iff (reachable : run.Reachable FreshBench.evolves)
    (operation : Operation) :
    (Connection.view? (run.connection.operate operation).2 = none →
      ∃ error, error.code = .deviceDisconnected ∧
        run.connection.operate operation =
          (run.connection, .finished ⟨none, .error error⟩)) ∧
    (∀ view, Connection.view? (run.connection.operate operation).2 = some view →
      view.state =
        if run.connection.cancelled then run.connection.state else .awaitingConfirmation) ∧
    (run.connection.cancelled = false →
      ((Connection.view? (run.connection.operate operation).2).isSome ↔
        run.connection.session.adapter.isSome) ∧
      ((Connection.view? (run.connection.operate operation).2).isSome ∧ ¬run.connection.IsLive ↔
        ∃ adapter, run.connection.session.adapter = some adapter ∧
          run.situation.Unready adapter)) := by
  have starts := run.connection.view?_isSome_iff operation
  refine ⟨?_, ?_, ?_⟩
  · intro unseen
    rw [unseen] at starts
    refine ⟨_, noWalletConnected_code _, run.connection.operate_refuses operation ?_⟩
    rw [← Option.not_isSome_iff_eq_none, ← Option.not_isSome_iff_eq_none]
    exact not_and_or.mp fun holding => absurd (starts.mpr holding) Bool.false_ne_true
  · intro view seen
    rw [seen] at starts
    obtain ⟨holding, owned⟩ := starts.mp rfl
    obtain ⟨adapter, held⟩ := Option.isSome_iff_exists.mp holding
    obtain ⟨token, current⟩ := Option.isSome_iff_exists.mp owned
    rw [Connection.operate_starts operation held current] at seen
    cases seen
    rfl
  · intro live
    have led := (reachable.sound live).led
    have holds : (Connection.view? (run.connection.operate operation).2).isSome ↔
        run.connection.session.adapter.isSome :=
      starts.trans ⟨And.left, fun holding => ⟨holding, led.token_of_adapter holding⟩⟩
    refine ⟨holds, ?_⟩
    rw [holds, Option.isSome_iff_exists]
    constructor
    · rintro ⟨⟨adapter, held⟩, unlive⟩
      exact ⟨adapter, held, Situation.unready_of_not_isLive led held unlive⟩
    · rintro ⟨adapter, held, unready⟩
      have engaged := reachable.engaged FreshBench.serves
      exact ⟨⟨adapter, held⟩, unready.not_isLive engaged held⟩

def opening : Run SimulatedBench :=
  (start { device := { latency := 5 } }).begin (.connect .ledger (.device "left"))

theorem opening_reachable : opening.Reachable FreshBench.evolves :=
  ⟨_, .tail .refl (.begin _ _)⟩

theorem operation_without_live_adapter_iff_opening :
    (Connection.view? (opening.connection.operate { answer := .ok .null }).2).isSome ∧
      ¬opening.connection.IsLive := by
  have flies : .attempt 1 (some 0) ∈ opening.situation.flights := by
    have flights : opening.situation.flights = {.attempt 1 (some 0)} + 0 := rfl
    simp [flights]
  obtain ⟨_, _, going⟩ := operation_without_live_adapter_iff opening_reachable
    { answer := .ok .null }
  exact (going rfl).2.mpr ⟨0, rfl, .connecting 1 rfl flies⟩

theorem operation_on_adapter_that_connects :
    ¬∀ run : Run SimulatedBench, run.Reachable FreshBench.evolves →
      run.connection.cancelled = false → ∀ operation : Operation,
        (Connection.view? (run.connection.operate operation).2).isSome →
          run.connection.IsLive := by
  intro always
  have starts : (Connection.view? (opening.connection.operate { answer := .ok .null }).2).isSome :=
    rfl
  have live := always opening opening_reachable rfl { answer := .ok .null } starts
  cases live.still

end Run

end SignerLink
