import SignerLink.Proofs.Connection.Decomposition
/-!
What moves do to adapters: one is created for the attempt that owns the session, or one is
destroyed and the session does not keep it.
-/

namespace SignerLink

variable {Bench : Type} [AdapterBench Bench]

inductive AdapterChange (evolves : Bench → Bench → Prop) (before : Situation Bench)
    (bench : Bench) (held : Option AdapterId) : Prop where
  | same : bench = before.connection.bench → held = before.connection.session.adapter →
      AdapterChange evolves before bench held
  | evolved : evolves before.connection.bench bench →
      held = before.connection.session.adapter → AdapterChange evolves before bench held
  | destroyed (adapter : AdapterId) :
      bench = AdapterBench.destroy before.connection.bench adapter →
      held = (if before.connection.session.adapter = some adapter then none
        else before.connection.session.adapter) →
      AdapterChange evolves before bench held
  | created (wallet : Wallet) (token : Token) (adapter : AdapterId) :
      before.connection.session.token = some token → .attempt token none ∈ before.flights →
      AdapterBench.create before.connection.bench wallet token = (bench, .ok adapter) →
      held = some adapter → AdapterChange evolves before bench held

theorem AdapterChange.released {evolves : Bench → Bench → Prop} {connection : Connection Bench}
    {flights : Multiset Flight} {isOver : Bool} {bench : Bench}
    (release : bench = connection.releaseAdapter.bench) :
    AdapterChange evolves ⟨connection, flights, isOver⟩ bench none := by
  rw [Connection.releaseAdapter_bench] at release
  cases held : connection.session.adapter with
  | none =>
      rw [held] at release
      exact .same release held.symm
  | some adapter =>
      rw [held] at release
      exact .destroyed adapter release (by simp [held])

theorem AdapterChange.discarded {evolves : Bench → Bench → Prop} {connection : Connection Bench}
    {flights : Multiset Flight} {isOver : Bool} (adapter : AdapterId) :
    AdapterChange evolves ⟨connection, flights, isOver⟩
      (AdapterBench.destroy connection.bench adapter)
      (connection.discard adapter).session.adapter := by
  refine .destroyed adapter rfl ?_
  rw [Connection.discard_session]
  split <;> rfl

theorem Move.adapterChange {evolves : Bench → Bench → Prop} {before after : Situation Bench}
    {shown : Option Unbacked} (move : Move evolves before shown after) :
    AdapterChange evolves before after.connection.bench after.connection.session.adapter := by
  cases move with
  | serve bench signals evolved => exact .evolved (by simpa using evolved) (by simp)
  | takeOver wallet deviceId _ =>
      rw [Connection.beginAttempt_session]
      exact .released (Connection.beginAttempt_bench _ _ _)
  | giveWay _ | hold _ _ | cancel | inbox _ _ | locate _ _ => exact .same rfl rfl
  | install wallet current _ created =>
      exact .created wallet _ _ (Connection.interruption?_eq_none.mp current).2
        (Multiset.mem_cons_self _ _) created rfl
  | connect _ | clearError | notice _ _ | verify _ _ | operated _ => exact .same (by simp) (by simp)
  | fail error _ =>
      rw [Connection.failAttempt_session]
      exact .released (Connection.failAttempt_bench _ _)
  | discard _ =>
      rw [Connection.discard_bench]
      exact .discarded _
  | leave _ => exact .same rfl rfl
  | leaveNothing held =>
      refine .same (by simp) ?_
      rw [Connection.supersede_finishDisconnect_session]
  | @left connection _ _ call =>
      have session : (connection.disconnectAnswered call).session.adapter =
          (connection.discard call.adapter).session.adapter := by
        rw [Connection.disconnectAnswered_session]
        split <;> rfl
      rw [Connection.disconnectAnswered_bench, session]
      exact .discarded _
  | reset =>
      rw [Connection.reset_session]
      exact .released (Connection.reset_bench _)
  | teardown =>
      rw [Connection.teardown_session]
      exact .released (Connection.teardown_bench _)
  | lose error =>
      rw [Connection.handleDisconnect_session, Connection.handleDisconnect_bench]
      split
      next => exact .same rfl rfl
      next => exact .released rfl
  | operate _ _ => exact .same (Connection.awaiting_bench _) (by rw [Connection.awaiting_session])

theorem Move.flight_adapter {evolves : Bench → Bench → Prop} {before after : Situation Bench}
    {shown : Option Unbacked} (move : Move evolves before shown after) {flight : Flight}
    (member : flight ∈ after.flights) {adapter : AdapterId}
    (mentioned : flight.adapter? = some adapter) :
    (∃ former ∈ before.flights, former.adapter? = some adapter) ∨
      before.connection.session.adapter = some adapter ∨
      after.connection.session.adapter = some adapter := by
  have kept {flights : Multiset Flight} (same : flight ∈ flights) (other : Flight) :
      ∃ former ∈ other ::ₘ flights, former.adapter? = some adapter :=
    ⟨flight, Multiset.mem_cons_of_mem same, mentioned⟩
  cases move with
  | serve | locate _ _ | leaveNothing _ | reset | teardown | cancel | clearError | lose _
  | notice _ _ | inbox _ _ => exact .inl ⟨flight, member, mentioned⟩
  | giveWay _ | connect _ | fail _ _ | discard _ | left _ | verify _ _ | operated _ =>
      exact .inl (kept member _)
  | takeOver _ _ _ | hold _ _ | operate _ _ =>
      rcases Multiset.mem_cons.mp member with rfl | member
      · cases mentioned
      · exact .inl ⟨flight, member, mentioned⟩
  | install _ _ _ _ =>
      rcases Multiset.mem_cons.mp member with rfl | member
      · exact .inr (.inr mentioned)
      · exact .inl (kept member _)
  | leave held =>
      rcases Multiset.mem_cons.mp member with rfl | member
      · exact .inr (.inl (held.trans mentioned))
      · exact .inl ⟨flight, member, mentioned⟩

end SignerLink
