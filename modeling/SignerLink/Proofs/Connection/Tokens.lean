import Mathlib.Data.Multiset.Filter
import SignerLink.Proofs.Connection.Decomposition
/-!
Tokens. Every flight and the session itself go on under a token that was given to an attempt,
and each token has at most one owner.
-/

namespace SignerLink

variable {Bench : Type} [AdapterBench Bench]

namespace Move

variable {evolves : Bench → Bench → Prop} {before after : Situation Bench}
  {shown : Option Unbacked}

theorem token (move : Move evolves before shown after) :
    before.connection.lastToken = after.connection.lastToken ∧
        (after.connection.session.token = before.connection.session.token ∨
          after.connection.session.token = none) ∨
      before.connection.lastToken < after.connection.lastToken ∧
        (after.connection.session.token = some after.connection.lastToken ∨
          after.connection.session.token = none) := by
  cases move with
  | serve | giveWay _ | locate _ _ | install _ _ _ _ | connect _ | discard _ | clearError
  | inbox _ _ | hold _ _ | cancel | takeOver _ _ _ | leave _ | fail _ _ | reset | teardown
  | notice _ _ | verify _ _ | operated _ => simp
  | leaveNothing _ => simp [Connection.finishDisconnect_session]
  | left call =>
      simp only [Connection.disconnectAnswered_session, Connection.disconnectAnswered_lastToken]
      split <;> simp
  | lose error =>
      simp only [Connection.handleDisconnect_session, Connection.handleDisconnect_lastToken]
      split <;> simp
  | operate _ _ => split <;> simp

theorem lastToken_le (move : Move evolves before shown after) :
    before.connection.lastToken ≤ after.connection.lastToken := by
  rcases move.token with ⟨same, _⟩ | ⟨more, _⟩
  · exact Nat.le_of_eq same
  · exact Nat.le_of_lt more

theorem flight_token (move : Move evolves before shown after) {flight : Flight}
    (member : flight ∈ after.flights) :
    (∃ former ∈ before.flights, former.token = flight.token) ∨
      before.connection.session.token = some flight.token ∨
      flight.token = after.connection.lastToken := by
  have kept {flights : Multiset Flight} (same : flight ∈ flights) (other : Flight) :
      ∃ former ∈ other ::ₘ flights, former.token = flight.token :=
    ⟨flight, Multiset.mem_cons_of_mem same, rfl⟩
  cases move with
  | serve | locate _ _ | leaveNothing _ | reset | teardown | cancel | clearError | lose _
  | notice _ _ | inbox _ _ => exact .inl ⟨flight, member, rfl⟩
  | giveWay _ | connect _ | fail _ _ | discard _ | left _ | verify _ _ | operated _ =>
      exact .inl (kept member _)
  | takeOver _ _ _ | leave _ =>
      rcases Multiset.mem_cons.mp member with rfl | member
      · exact .inr (.inr (by simp [Flight.token]))
      · exact .inl ⟨flight, member, rfl⟩
  | install _ _ _ _ =>
      rcases Multiset.mem_cons.mp member with rfl | member
      · exact .inl ⟨_, Multiset.mem_cons_self _ _, rfl⟩
      · exact .inl (kept member _)
  | hold _ current | operate _ current =>
      rcases Multiset.mem_cons.mp member with rfl | member
      · exact .inr (.inl current)
      · exact .inl ⟨flight, member, rfl⟩

end Move

structure Situation.Issued (situation : Situation Bench) : Prop where
  flights : ∀ flight ∈ situation.flights, flight.token ≤ situation.connection.lastToken
  session : ∀ token, situation.connection.session.token = some token →
    token = situation.connection.lastToken

theorem Move.issued {evolves : Bench → Bench → Prop} {before after : Situation Bench}
    {shown : Option Unbacked} (move : Move evolves before shown after) (issued : before.Issued) :
    after.Issued where
  flights flight member := by
    rcases move.flight_token member with ⟨former, flew, same⟩ | current | fresh
    · exact same ▸ (issued.flights former flew).trans move.lastToken_le
    · exact (issued.session _ current).le.trans move.lastToken_le
    · exact fresh.le
  session token current := by
    rcases move.token with ⟨same, kept | lost⟩ | ⟨_, fresh | lost⟩
    · exact same ▸ issued.session token (kept ▸ current)
    · rw [lost] at current; cases current
    · rw [fresh] at current; cases current; rfl
    · rw [lost] at current; cases current

def owners (flights : Multiset Flight) (token : Token) : Multiset Flight :=
  flights.filter fun flight => flight.isOwner ∧ flight.token = token

section Owners

variable (flights : Multiset Flight) (token current : Token)

theorem owners_cons (flight : Flight) :
    owners (flight ::ₘ flights) current =
      if flight.isOwner ∧ flight.token = current then flight ::ₘ owners flights current
      else owners flights current := by
  simp only [owners, Multiset.filter_cons]
  split
  · exact Multiset.singleton_add _ _
  · exact Multiset.zero_add _

@[simp] theorem owners_attempt (adapter : Option AdapterId) :
    owners (.attempt token adapter ::ₘ flights) current =
      if token = current then .attempt token adapter ::ₘ owners flights current
      else owners flights current := by
  simp [owners_cons, Flight.isOwner, Flight.token]

@[simp] theorem owners_disconnect (adapter : AdapterId) :
    owners (.disconnect token adapter ::ₘ flights) current =
      if token = current then .disconnect token adapter ::ₘ owners flights current
      else owners flights current := by
  simp [owners_cons, Flight.isOwner, Flight.token]

@[simp] theorem owners_verification :
    owners (.verification token ::ₘ flights) current = owners flights current := by
  simp [owners_cons, Flight.isOwner]

@[simp] theorem owners_operation :
    owners (.operation token ::ₘ flights) current = owners flights current := by
  simp [owners_cons, Flight.isOwner]

theorem owners_le_cons (flight : Flight) :
    owners flights current ≤ owners (flight ::ₘ flights) current :=
  Multiset.filter_le_filter _ (Multiset.le_cons_self flights flight)

variable {flights current}

theorem mem_owners {flight : Flight} :
    flight ∈ owners flights current ↔
      flight ∈ flights ∧ flight.isOwner ∧ flight.token = current := by
  rw [owners, Multiset.mem_filter]

theorem mem_of_owners_eq {leader : Flight} (alone : owners flights current = {leader}) :
    leader ∈ flights ∧ leader.isOwner ∧ leader.token = current := by
  rw [← mem_owners, alone]
  exact Multiset.mem_singleton_self leader

end Owners

omit [AdapterBench Bench] in
theorem Situation.Issued.owners_fresh {situation : Situation Bench} (issued : situation.Issued) :
    owners situation.flights (situation.connection.lastToken + 1) = 0 := by
  rw [Multiset.eq_zero_iff_forall_notMem]
  intro flight member
  obtain ⟨flies, _, fresh⟩ := mem_owners.mp member
  have bound := issued.flights flight flies
  rw [fresh] at bound
  exact Nat.not_succ_le_self _ bound

def Situation.Lone (situation : Situation Bench) : Prop :=
  ∀ token, (owners situation.flights token).card ≤ 1

omit [AdapterBench Bench] in
theorem Situation.Lone.of_fresh {connection next : Connection Bench} {flights : Multiset Flight}
    {isOver ended : Bool} {flight : Flight} (lone : Lone ⟨connection, flights, isOver⟩)
    (issued : Issued ⟨connection, flights, isOver⟩)
    (fresh : flight.token = connection.lastToken + 1) :
    Lone ⟨next, flight ::ₘ flights, ended⟩ := by
  intro current
  have given := lone current
  rw [owners_cons]
  split
  next owns =>
    rw [← owns.2, fresh]
    simp [issued.owners_fresh]
  next => exact given

theorem Move.lone {evolves : Bench → Bench → Prop} {before after : Situation Bench}
    {shown : Option Unbacked} (move : Move evolves before shown after) (issued : before.Issued)
    (lone : before.Lone) : after.Lone := by
  cases move with
  | serve | locate _ _ | leaveNothing _ | reset | teardown | cancel | clearError | lose _
  | notice _ _ | inbox _ _ => exact lone
  | giveWay _ | connect _ | fail _ _ | discard _ | left _ | verify _ _ | operated _ =>
      exact fun current => (Multiset.card_le_card (owners_le_cons _ _ _)).trans (lone current)
  | takeOver _ _ _ | leave _ => exact lone.of_fresh issued rfl
  | install _ _ _ _ =>
      intro current
      have given := lone current
      simp only [owners_attempt] at given ⊢
      split
      next same => simpa [same] using given
      next other => simpa [other] using given
  | hold _ _ | operate _ _ =>
      intro current
      simpa using lone current

omit [AdapterBench Bench] in
theorem Run.start_issued (bench : Bench) : (start bench).situation.Issued := by
  constructor
  · intro flight member
    simp [situation, start] at member
  · intro token current
    simp [situation, start] at current

theorem Run.Reachable.allocated {evolves : Bench → Bench → Prop} {run : Run Bench}
    (serves : Serves evolves) (reachable : run.Reachable evolves) : run.situation.Issued := by
  obtain ⟨bench, steps⟩ := reachable
  exact steps.keep Situation.Issued serves (fun move => move.issued) (start_issued bench)

omit [AdapterBench Bench] in
theorem Run.start_lone (bench : Bench) : (start bench).situation.Lone := by
  intro token
  simp [situation, start, owners]

end SignerLink
