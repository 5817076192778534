import SignerLink.Proofs.Adapter.Living
import SignerLink.Proofs.Connection.AdapterChange
import SignerLink.Proofs.Connection.Tokens
/-!
A session has one live adapter at most, and holds it. Whoever creates an adapter owns the
session's token, and so finds the session without one.
-/

namespace SignerLink

variable {Bench : Type} [AdapterBench Bench]

def Situation.Vacant (situation : Situation Bench) : Prop :=
  ∀ token, situation.connection.session.token = some token →
    .attempt token none ∈ situation.flights → situation.connection.session.adapter = none

omit [AdapterBench Bench] in
theorem Situation.Vacant.mono {connection next : Connection Bench}
    {flights fewer : Multiset Flight} {isOver ended : Bool}
    (vacant : Vacant ⟨connection, flights, isOver⟩) (less : fewer ≤ flights)
    (token : next.session.token = connection.session.token ∨ next.session.token = none)
    (adapter : next.session.adapter = connection.session.adapter ∨ next.session.adapter = none) :
    Vacant ⟨next, fewer, ended⟩ := by
  intro current owned flies
  rcases token with same | lost
  · rcases adapter with held | none
    · exact held.trans
        (vacant current (same ▸ owned) (Multiset.mem_of_le less flies))
    · exact none
  · rw [lost] at owned
    cases owned

theorem Move.vacant {evolves : Bench → Bench → Prop} {before after : Situation Bench}
    {shown : Option Unbacked} (move : Move evolves before shown after) (issued : before.Issued)
    (lone : before.Lone) (vacant : before.Vacant) : after.Vacant := by
  cases move with
  | serve | clearError | cancel | inbox _ _ | locate _ _ | notice _ _ =>
      exact vacant.mono le_rfl (.inl (by simp)) (.inl (by simp))
  | giveWay _ | connect _ | verify _ _ | operated _ =>
      exact vacant.mono (Multiset.le_cons_self _ _) (.inl (by simp)) (.inl (by simp))
  | fail _ _ => exact vacant.mono (Multiset.le_cons_self _ _) (.inr (by simp)) (.inr (by simp))
  | reset | teardown => exact vacant.mono le_rfl (.inr (by simp)) (.inr (by simp))
  | lose error =>
      refine vacant.mono le_rfl ?_ ?_ <;>
        (rw [Connection.handleDisconnect_session]; split <;> simp)
  | discard _ =>
      refine vacant.mono (Multiset.le_cons_self _ _) (.inl (by simp)) ?_
      rw [Connection.discard_session]
      split <;> simp
  | left call =>
      refine vacant.mono (Multiset.le_cons_self _ _) ?_ ?_ <;>
        (rw [Connection.disconnectAnswered_session, Connection.discard_session]
         split <;> split <;> simp)
  | takeOver _ _ _ =>
      intro _ _ _
      simp
  | leaveNothing held =>
      intro _ _ _
      rw [Connection.supersede_finishDisconnect_session]
      exact held
  | leave held =>
      intro current owned flies
      cases owned
      simp only [Multiset.mem_cons, reduceCtorEq, false_or] at flies
      exact absurd (issued.flights _ flies) (Nat.not_succ_le_self _)
  | @install _ token _ _ _ _ _ current =>
      intro other owned flies
      cases (Connection.interruption?_eq_none.mp current).2.symm.trans owned
      have alone := lone token
      rw [owners_attempt, if_pos rfl, Multiset.card_cons, Nat.succ_le_succ_iff, Nat.le_zero,
        Multiset.card_eq_zero] at alone
      simp only [Multiset.mem_cons, Flight.attempt.injEq, reduceCtorEq, and_false,
        false_or] at flies
      have owner : .attempt token none ∈ owners _ token := mem_owners.mpr ⟨flies, rfl, rfl⟩
      rw [alone] at owner
      cases owner
  | hold _ _ =>
      intro current owned flies
      simp only [Multiset.mem_cons, reduceCtorEq, false_or] at flies
      exact vacant current owned flies
  | operate _ _ =>
      intro current owned flies
      simp only [Multiset.mem_cons, reduceCtorEq, false_or] at flies
      rw [Connection.awaiting_session] at owned ⊢
      exact vacant current owned flies

theorem CountingBench.serves [CountingBench Bench] :
    Serves (CountingBench.evolves : Bench → Bench → Prop) where
  trans earlier later := later.trans earlier
  begins := begins
  finishes := finishes
  refuses {bench wallet token next error} refused := by
    have count := creates bench wallet token
    rw [refused] at count
    exact count

section Living

variable [LivingBench Bench]

theorem LivingBench.serves [CountingBench Bench] :
    Serves (LivingBench.evolves : Bench → Bench → Prop) where
  trans earlier later :=
    ⟨CountingBench.serves.trans earlier.1 later.1, fun id => earlier.2 id ∘ later.2 id⟩
  begins bench adapter request :=
    ⟨CountingBench.serves.begins bench adapter request,
      fun id => (begins bench adapter request id).mp⟩
  finishes bench adapter request :=
    ⟨CountingBench.serves.finishes bench adapter request,
      fun id => (finishes bench adapter request id).mp⟩
  refuses {bench wallet token next error} refused := by
    refine ⟨CountingBench.serves.refuses refused, ?_⟩
    intro id live
    have lives := creates bench wallet token id
    rw [refused] at lives
    simpa using lives.mp live

/-- Every live adapter is the session's. -/
structure Situation.HoldsEveryLive (situation : Situation Bench) : Prop where
  issued : situation.Issued
  lone : situation.Lone
  vacant : situation.Vacant
  held : ∀ id, LivingBench.IsLive situation.connection.bench id →
    situation.connection.session.adapter = some id

variable {evolves : Bench → Bench → Prop} {before after : Situation Bench}

theorem Situation.HoldsEveryLive.held_after (ages : ∀ {earlier later}, evolves earlier later →
      LivingBench.ages earlier later) (holds : before.HoldsEveryLive) {bench : Bench}
    {held : Option AdapterId} (change : AdapterChange evolves before bench held) {id : AdapterId}
    (live : LivingBench.IsLive bench id) : held = some id := by
  cases change with
  | same benchEq heldEq => exact heldEq.trans (holds.held id (benchEq ▸ live))
  | evolved evolved heldEq => exact heldEq.trans (holds.held id (ages evolved id live))
  | destroyed adapter benchEq heldEq =>
      rw [benchEq, LivingBench.destroys] at live
      rw [heldEq, holds.held id live.1, if_neg (by simpa using live.2)]
  | created wallet token adapter owned flies created heldEq =>
      have lives := LivingBench.creates before.connection.bench wallet token id
      rw [created] at lives
      -- An older adapter that is live would be the session's, but the creator found none there.
      rcases lives.mp live with old | new
      · have vacant := holds.vacant token owned flies
        rw [holds.held id old] at vacant
        cases vacant
      · cases new
        exact heldEq

theorem Move.holdsEveryLive (ages : ∀ {earlier later}, evolves earlier later →
      LivingBench.ages earlier later) {shown : Option Unbacked}
    (move : Move evolves before shown after) (holds : before.HoldsEveryLive) :
    after.HoldsEveryLive where
  issued := move.issued holds.issued
  lone := move.lone holds.issued holds.lone
  vacant := move.vacant holds.issued holds.lone holds.vacant
  held _ := holds.held_after ages move.adapterChange

theorem Run.start_holdsEveryLive {bench : Bench} (bare : ∀ id, ¬LivingBench.IsLive bench id) :
    (start bench).situation.HoldsEveryLive where
  issued := start_issued bench
  lone := start_lone bench
  vacant := by
    intro _ owned
    cases owned
  held id live := absurd live (bare id)

end Living

variable [Simulated Bench]

open Simulated (simulated)

def Simulated.evolves (before after : Bench) : Prop := (simulated before).Keeps (simulated after)

theorem Simulated.serves : Serves (Simulated.evolves : Bench → Bench → Prop) where
  trans := SimulatedBench.Keeps.trans
  begins := Simulated.begins
  finishes := Simulated.finishes
  refuses {bench wallet token next error} refused := by
    have same := Simulated.create bench wallet token
    rw [refused] at same
    rw [evolves, SimulatedBench.create_refused same.symm]
    exact .refl _

/-- Only the session's adapter is live, and the counters agree. -/
structure Situation.Single (situation : Situation Bench) : Prop where
  issued : situation.Issued
  lone : situation.Lone
  vacant : situation.Vacant
  held : ∀ id, (simulated situation.connection.bench).IsLive id →
    situation.connection.session.adapter = some id
  counted : (simulated situation.connection.bench).Counted

theorem Situation.Single.holdsEveryLive {situation : Situation Bench} (single : situation.Single) :
    situation.HoldsEveryLive := ⟨single.issued, single.lone, single.vacant, single.held⟩

theorem Situation.Single.counted_after {before : Situation Bench} {bench : Bench}
    {held : Option AdapterId} (single : before.Single)
    (change : AdapterChange Simulated.evolves before bench held) : (simulated bench).Counted := by
  cases change with
  | same benchEq _ => exact benchEq ▸ single.counted
  | evolved kept _ => exact kept.counted single.counted
  | destroyed adapter benchEq _ =>
      rw [benchEq, Simulated.destroy]
      exact SimulatedBench.destroy_counted _ adapter single.counted
  | created wallet token adapter owned flies created _ =>
      have simulatedCreate := Simulated.create before.connection.bench wallet token
      rw [created] at simulatedCreate
      refine SimulatedBench.create_counted simulatedCreate.symm single.counted ?_
      intro id old
      have vacant := single.vacant token owned flies
      rw [single.held id old] at vacant
      cases vacant

theorem Move.single {before after : Situation Bench} {shown : Option Unbacked}
    (move : Move Simulated.evolves before shown after) (single : before.Single) :
    after.Single where
  issued := move.issued single.issued
  lone := move.lone single.issued single.lone
  vacant := move.vacant single.issued single.lone single.vacant
  held _ := single.holdsEveryLive.held_after (fun kept _ => kept.isLive.mp) move.adapterChange
  counted := single.counted_after move.adapterChange

namespace Run

/-- Over simulated adapters that were all created in this run, at most one is ever live, the
session holds it, and every adapter is either counted as live or destroyed. -/
theorem single_live_adapter {first : Bench} {device : SimulatedDevice} {run : Run Bench}
    (fresh : simulated first = { device := device })
    (steps : Steps Simulated.evolves (start first) run) :
    (∀ id, (simulated run.connection.bench).IsLive id →
      run.connection.session.adapter = some id) ∧
    (simulated run.connection.bench).fates.count false ≤ 1 ∧
    (simulated run.connection.bench).fates.count false = (simulated run.connection.bench).live ∧
    (simulated run.connection.bench).live + (simulated run.connection.bench).fates.count true =
      (simulated run.connection.bench).created ∧
    (simulated run.connection.bench).mostLive ≤ 1 := by
  have single : run.situation.Single := by
    refine steps.keep Situation.Single Simulated.serves (fun move => move.single) ?_
    constructor
    case issued => exact start_issued first
    case lone => exact start_lone first
    case vacant => intro _ owned; cases owned
    case held =>
      intro id live
      simp [situation, start, fresh, SimulatedBench.IsLive, SimulatedBench.fates] at live
    case counted => constructor <;> simp [situation, start, fresh, SimulatedBench.fates]
  have counted : (simulated run.connection.bench).Counted := single.counted
  refine ⟨single.held, ?_, counted.live, counted.split, counted.mostLive⟩
  exact counted.live.trans_le (counted.peak.trans counted.mostLive)

def twoDisconnects : Run PostponingBench :=
  (((start ⟨{}⟩).begin (.connect .ledger (.device "left"))).begin .disconnect).begin .disconnect

theorem single_live_adapter_twoDisconnects :
    (simulated twoDisconnects.connection.bench).fates = [false] ∧
      (simulated (twoDisconnects.connection.resume (.disconnect ⟨3, 0⟩)).1.bench).fates = [true] ∧
      (simulated (twoDisconnects.connection.resume (.disconnect ⟨3, 0⟩)).1.bench).mostLive ≤ 1 := by
  have begun : Steps Simulated.evolves (start ⟨{}⟩) twoDisconnects :=
    .tail (.tail (.tail .refl (.begin _ _)) (.begin _ _)) (.begin _ _)
  have resumed := begun.tail (.resume twoDisconnects.connection (.disconnect ⟨3, 0⟩)
    {.disconnect ⟨2, 0⟩, .attempt (.connecting 1 .ledger "left" 0)} false)
  exact ⟨rfl, rfl, (single_live_adapter rfl resumed).2.2.2.2⟩

end Run

end SignerLink
