import SignerLink.Proofs.Adapter.Counting
/-!
Benches that tell which of their adapters were created and not yet destroyed.
-/

namespace SignerLink

class LivingBench (Bench : Type) [AdapterBench Bench] where
  IsLive : Bench → AdapterId → Prop
  creates : ∀ bench wallet token id, IsLive (AdapterBench.create bench wallet token).1 id ↔
    IsLive bench id ∨ (AdapterBench.create bench wallet token).2 = .ok id
  destroys : ∀ bench adapter id,
    IsLive (AdapterBench.destroy bench adapter) id ↔ IsLive bench id ∧ id ≠ adapter
  begins : ∀ bench adapter request id,
    IsLive (AdapterBench.begin bench adapter request).1 id ↔ IsLive bench id
  finishes : ∀ bench adapter request id,
    IsLive (AdapterBench.finish bench adapter request).1 id ↔ IsLive bench id

namespace LivingBench

variable {Bench : Type} [AdapterBench Bench] [LivingBench Bench]

def ages (before after : Bench) : Prop := ∀ id, IsLive after id → IsLive before id

def evolves [CountingBench Bench] (before after : Bench) : Prop :=
  CountingBench.evolves before after ∧ ages before after

end LivingBench

instance {Bench : Type} [AdapterBench Bench] [Simulated Bench] : LivingBench Bench where
  IsLive bench := (Simulated.simulated bench).IsLive
  creates bench wallet token id := by
    rcases created : AdapterBench.create bench wallet token with ⟨next, answer⟩
    have same := Simulated.create bench wallet token
    rw [created] at same
    cases answer with
    | error error =>
        rw [SimulatedBench.create_refused same.symm]
        simp
    | ok adapter =>
        refine (SimulatedBench.create_isLive same.symm id).trans (or_congr_right ?_)
        rw [Except.ok.injEq]
        exact eq_comm
  destroys bench adapter id := by
    rw [Simulated.destroy]
    exact SimulatedBench.destroy_isLive _ adapter id
  begins bench adapter request _ := (Simulated.begins bench adapter request).isLive
  finishes bench adapter request _ := (Simulated.finishes bench adapter request).isLive

theorem SimulatedBench.setDevice_evolves (bench : SimulatedBench) (device : SimulatedDevice) :
    LivingBench.evolves bench (bench.setDevice device) := ⟨rfl, fun _ => id⟩

namespace ScriptedBench

def IsLive (bench : ScriptedBench) (id : AdapterId) : Prop :=
  ∃ adapter, bench.adapters[id]? = some adapter ∧ adapter.destroyed = false

variable (bench : ScriptedBench)

theorem update_isLive (id other : AdapterId) {change : ScriptedAdapter → ScriptedAdapter}
    (spares : ∀ adapter, (change adapter).destroyed = adapter.destroyed) :
    (bench.update id change).IsLive other ↔ bench.IsLive other := by
  simp only [IsLive, update, List.getElem?_modify]
  cases present : bench.adapters[other]? with
  | none => simp
  | some adapter => by_cases same : id = other <;> simp [same, spares]

theorem create_isLive (wallet : Wallet) (token : Token) (id : AdapterId) :
    (bench.create wallet token).1.IsLive id ↔
      bench.IsLive id ∨ (bench.create wallet token).2 = .ok id := by
  simp only [create]
  split
  next => simp [IsLive]
  next =>
    simp only [IsLive, List.getElem?_append, List.getElem?_singleton, Except.ok.injEq]
    by_cases bound : id < bench.adapters.length
    · simp [bound, Nat.ne_of_gt bound]
    · have place : id - bench.adapters.length = 0 ↔ bench.adapters.length = id := by
        rw [Nat.sub_eq_zero_iff_le]
        exact ⟨Nat.le_antisymm (Nat.le_of_not_lt bound), Nat.le_of_eq ∘ Eq.symm⟩
      simp [bound, place]

theorem destroy_isLive (id other : AdapterId) :
    (bench.destroy id).IsLive other ↔ bench.IsLive other ∧ other ≠ id := by
  by_cases alive : bench.adapters[id]?.any (fun adapter => !adapter.destroyed) = true
  · simp only [destroy, log, alive, if_true, IsLive, update, List.getElem?_modify]
    by_cases same : id = other
    · simp [same]
    · simp [same, Ne.symm same]
  · simp only [destroy, log, alive, IsLive]
    refine ⟨fun live => ⟨live, ?_⟩, And.left⟩
    rintro rfl
    obtain ⟨adapter, present, live⟩ := live
    simp_all

instance : LivingBench ScriptedBench where
  IsLive := IsLive
  creates := create_isLive
  destroys := destroy_isLive
  begins bench id request other := by
    simp only [AdapterBench.begin, begin]
    split
    next => rfl
    next => cases request <;> rfl
  finishes bench id request other := by
    simp only [AdapterBench.finish, finish]
    split
    next => rfl
    next =>
      cases request with
      | connect deviceId =>
          dsimp only
          split
          · rfl
          · exact bench.update_isLive id other fun _ => rfl
      | verify deviceId => exact bench.update_isLive id other fun _ => rfl
      | disconnect => exact bench.update_isLive id other fun _ => rfl

end ScriptedBench

instance {Left Right : Type} [AdapterBench Left] [AdapterBench Right] [LivingBench Left]
    [LivingBench Right] : LivingBench (Left ⊕ Right) where
  IsLive := Sum.elim LivingBench.IsLive LivingBench.IsLive
  creates
    | .inl bench, wallet, token => LivingBench.creates bench wallet token
    | .inr bench, wallet, token => LivingBench.creates bench wallet token
  destroys
    | .inl bench, adapter => LivingBench.destroys bench adapter
    | .inr bench, adapter => LivingBench.destroys bench adapter
  begins
    | .inl bench, adapter, request => LivingBench.begins bench adapter request
    | .inr bench, adapter, request => LivingBench.begins bench adapter request
  finishes
    | .inl bench, adapter, request => LivingBench.finishes bench adapter request
    | .inr bench, adapter, request => LivingBench.finishes bench adapter request

end SignerLink
