import Mathlib.Data.Bool.Count
import SignerLink.Adapter.Simulated
/-!
The lifetimes of simulated adapters: who was destroyed, and what the counters of a bench say
about it.
-/

namespace SignerLink

namespace SimulatedBench

/-- Whether each adapter was destroyed, in order of creation. -/
def fates (bench : SimulatedBench) : List Bool := bench.adapters.map SimulatedAdapter.destroyed

def IsLive (bench : SimulatedBench) (id : AdapterId) : Prop := bench.fates[id]? = some false

/-- The counters tell how many adapters are live, and there was never more than one. -/
structure Counted (bench : SimulatedBench) : Prop where
  live : bench.fates.count false = bench.live
  peak : bench.live ≤ bench.mostLive
  mostLive : bench.mostLive ≤ 1

theorem Counted.split {bench : SimulatedBench} (counted : bench.Counted) :
    bench.live + bench.fates.count true = bench.created := by
  have length : bench.created = bench.fates.length := by simp [created, fates]
  rw [← counted.live, length, List.count_false_add_count_true]

structure Keeps (before after : SimulatedBench) : Prop where
  fates : after.fates = before.fates
  live : after.live = before.live
  mostLive : after.mostLive = before.mostLive

namespace Keeps

variable {first second third : SimulatedBench}

theorem refl (bench : SimulatedBench) : Keeps bench bench := ⟨rfl, rfl, rfl⟩

theorem trans (before : Keeps first second) (after : Keeps second third) : Keeps first third :=
  ⟨after.fates.trans before.fates, after.live.trans before.live,
    after.mostLive.trans before.mostLive⟩

theorem isLive (keeps : Keeps first second) {id : AdapterId} :
    second.IsLive id ↔ first.IsLive id := by
  rw [IsLive, keeps.fates, IsLive]

theorem counted (keeps : Keeps first second) (counted : first.Counted) : second.Counted where
  live := by rw [keeps.fates, keeps.live]; exact counted.live
  peak := by rw [keeps.live, keeps.mostLive]; exact counted.peak
  mostLive := by rw [keeps.mostLive]; exact counted.mostLive

end Keeps

variable (bench : SimulatedBench)

/-! What creates and destroys nothing. -/

theorem setAdapter_keeps {id : AdapterId} {adapter changed : SimulatedAdapter}
    (present : bench.adapters[id]? = some adapter) (same : changed.destroyed = adapter.destroyed) :
    Keeps bench (bench.setAdapter id changed) := by
  obtain ⟨bound, rfl⟩ := List.getElem?_eq_some_iff.mp present
  refine ⟨?_, rfl, rfl⟩
  simp only [fates, setAdapter, List.map_set, same]
  rw [← List.getElem_map SimulatedAdapter.destroyed (h := by simpa using bound)]
  exact List.set_getElem_self _

theorem finishConnect_keeps (id : AdapterId) : Keeps bench (bench.finishConnect id).1 := by
  simp only [finishConnect]
  split
  next => exact .refl bench
  next adapter present =>
    split
    next => exact ⟨rfl, rfl, rfl⟩
    next =>
      split
      next => exact ⟨rfl, rfl, rfl⟩
      next =>
        split
        next => exact ⟨rfl, rfl, rfl⟩
        next live =>
          have kept : Keeps bench (bench.setAdapter id { adapter with connected := true }) :=
            bench.setAdapter_keeps present rfl
          exact ⟨kept.fates, rfl, rfl⟩

theorem begin_keeps (id : AdapterId) (request : AdapterRequest) :
    Keeps bench (bench.begin id request).1 := by
  simp only [begin]
  split
  next => exact .refl bench
  next adapter present =>
    cases request with
    | connect deviceId => exact .refl bench
    | verify deviceId => dsimp only; split <;> exact .refl bench
    | disconnect =>
        have kept : Keeps bench (bench.setAdapter id { adapter with connected := false }) :=
          bench.setAdapter_keeps present rfl
        exact ⟨kept.fates, rfl, rfl⟩

theorem finish_keeps (id : AdapterId) (request : AdapterRequest) :
    Keeps bench (bench.finish id request).1 := by
  have kept := bench.finishConnect_keeps id
  cases request with
  | connect deviceId => exact kept
  | verify deviceId =>
      simp only [finish]
      split
      next connected => rw [connected] at kept; exact kept
      next connected => rw [connected] at kept; exact kept
  | disconnect => exact .refl bench

/-! Destroying. -/

theorem destroy_eq (id : AdapterId) :
    bench.destroy id = bench ∧ ¬bench.IsLive id ∨
      bench.IsLive id ∧ (bench.destroy id).fates = bench.fates.set id true ∧
        (bench.destroy id).live = bench.live - 1 ∧
        (bench.destroy id).mostLive = bench.mostLive := by
  simp only [destroy, IsLive, fates, List.getElem?_map]
  cases present : bench.adapters[id]? with
  | none => simp
  | some adapter =>
      cases gone : adapter.destroyed with
      | true => simp [gone]
      | false =>
          refine .inr ⟨by simp [gone], ?_, ?_, ?_⟩
          all_goals simp [gone, forget, setAdapter, List.map_set]

theorem destroy_isLive (id other : AdapterId) :
    (bench.destroy id).IsLive other ↔ bench.IsLive other ∧ other ≠ id := by
  rcases bench.destroy_eq id with ⟨same, gone⟩ | ⟨live, fates, _, _⟩
  · rw [same]
    refine ⟨fun live => ⟨live, ?_⟩, And.left⟩
    rintro rfl
    exact gone live
  · simp only [IsLive, fates, List.getElem?_set]
    by_cases same : id = other
    · subst same
      simp
    · simp [same, Ne.symm same]

theorem destroy_counted (id : AdapterId) (counted : bench.Counted) :
    (bench.destroy id).Counted := by
  rcases bench.destroy_eq id with ⟨same, gone⟩ | ⟨live, fates, less, most⟩
  · rw [same]
    exact counted
  · obtain ⟨bound, fate⟩ := List.getElem?_eq_some_iff.mp live
    refine ⟨?_, ?_, most ▸ counted.mostLive⟩
    · rw [fates, less, List.count_set bound, fate, counted.live]
      simp
    · rw [less, most]
      exact Nat.le_trans (Nat.sub_le bench.live 1) counted.peak

/-! Creating. -/

theorem create_eq (wallet : Wallet) (token : Token) :
    (∃ error, bench.create wallet token = (bench, .error error)) ∨
      (bench.create wallet token).2 = .ok bench.fates.length ∧
        (bench.create wallet token).1.fates = bench.fates ++ [false] ∧
        (bench.create wallet token).1.live = bench.live + 1 ∧
        (bench.create wallet token).1.mostLive = max bench.mostLive (bench.live + 1) := by
  simp only [create]
  split
  next => exact .inl ⟨_, rfl⟩
  next => exact .inr ⟨by simp [add, fates], by simp [add, fates], rfl, rfl⟩

variable {bench}

theorem create_refused {wallet : Wallet} {token : Token} {next : SimulatedBench}
    {error : WalletError} (refused : bench.create wallet token = (next, .error error)) :
    next = bench := by
  rcases bench.create_eq wallet token with ⟨_, same⟩ | ⟨created, _⟩
  · rw [same] at refused
    cases refused
    rfl
  · rw [refused] at created
    cases created

theorem create_isLive {wallet : Wallet} {token : Token} {next : SimulatedBench}
    {adapter : AdapterId} (created : bench.create wallet token = (next, .ok adapter))
    (id : AdapterId) : next.IsLive id ↔ bench.IsLive id ∨ id = adapter := by
  rcases bench.create_eq wallet token with ⟨_, refused⟩ | ⟨place, fates, _, _⟩
  · rw [refused] at created
    cases created
  · rw [created] at place fates
    cases place
    simp only [IsLive, fates, List.getElem?_append, List.getElem?_singleton]
    split
    next bound => simp [Nat.ne_of_lt bound]
    next past =>
      have none : bench.fates[id]? = none := List.getElem?_eq_none (Nat.le_of_not_lt past)
      simp [none, Nat.sub_eq_zero_iff_le]
      exact ⟨fun le => Nat.le_antisymm le (Nat.le_of_not_lt past), Nat.le_of_eq⟩

theorem create_counted {wallet : Wallet} {token : Token} {next : SimulatedBench}
    {adapter : AdapterId} (created : bench.create wallet token = (next, .ok adapter))
    (counted : bench.Counted) (vacant : ∀ id, ¬bench.IsLive id) : next.Counted := by
  rcases bench.create_eq wallet token with ⟨_, refused⟩ | ⟨_, fates, live, most⟩
  · rw [refused] at created
    cases created
  · have none : bench.fates.count false = 0 := by
      rw [List.count_eq_zero]
      intro member
      obtain ⟨id, live⟩ := List.mem_iff_getElem?.mp member
      exact vacant id live
    rw [created] at fates live most
    have empty : bench.live = 0 := by rw [← counted.live, none]
    refine ⟨?_, ?_, ?_⟩
    · rw [fates, live, List.count_append, none, empty]
      rfl
    · rw [live, most]
      exact Nat.le_max_right _ _
    · rw [most, empty]
      exact Nat.max_le.mpr ⟨counted.mostLive, Nat.le_refl 1⟩

end SimulatedBench

/-- Simulated adapters that answer whenever they like. -/
class Simulated (Bench : Type) [AdapterBench Bench] where
  simulated : Bench → SimulatedBench
  create : ∀ bench wallet token, (AdapterBench.create bench wallet token).map simulated id =
    (simulated bench).create wallet token
  destroy : ∀ bench adapter, simulated (AdapterBench.destroy bench adapter) =
    (simulated bench).destroy adapter
  begins : ∀ bench adapter request, (simulated bench).Keeps
    (simulated (AdapterBench.begin bench adapter request).1)
  finishes : ∀ bench adapter request, (simulated bench).Keeps
    (simulated (AdapterBench.finish bench adapter request).1)

instance : Simulated SimulatedBench where
  simulated := id
  create _ _ _ := rfl
  destroy _ _ := rfl
  begins bench := bench.begin_keeps
  finishes bench := bench.finish_keeps

structure PostponingBench where
  bench : SimulatedBench

namespace PostponingBench

def answer (bench : SimulatedBench) (adapter : AdapterId) (request : AdapterRequest) :
    SimulatedBench × AdapterAnswer :=
  match bench.begin adapter request with
  | (bench, .now answer) => (bench, answer)
  | (bench, .later _) => bench.finish adapter request

theorem answer_keeps (bench : SimulatedBench) (adapter : AdapterId) (request : AdapterRequest) :
    bench.Keeps (answer bench adapter request).1 := by
  have began := bench.begin_keeps adapter request
  simp only [answer]
  split
  next asked => rw [asked] at began; exact began
  next asked => rw [asked] at began; exact began.trans (SimulatedBench.finish_keeps _ _ _)

instance : AdapterBench PostponingBench where
  create postponing wallet token :=
    (postponing.bench.create wallet token).map PostponingBench.mk id
  walletOf postponing := AdapterBench.walletOf postponing.bench
  isConnected postponing := postponing.bench.isConnected
  destroy postponing adapter := ⟨postponing.bench.destroy adapter⟩
  begin postponing _ _ := (postponing, [], .later 1)
  finish postponing adapter request :=
    let (bench, answer) := answer postponing.bench adapter request
    (⟨bench⟩, [], answer)

instance : Simulated PostponingBench where
  simulated := PostponingBench.bench
  create _ _ _ := rfl
  destroy _ _ := rfl
  begins _ _ _ := .refl _
  finishes postponing adapter request := answer_keeps postponing.bench adapter request

end PostponingBench

end SignerLink
