import SignerLink.Adapter.Scripted
import SignerLink.Proofs.Adapter.Lifetime
/-!
Benches that count the adapters they create.
-/

namespace SignerLink

class CountingBench (Bench : Type) [AdapterBench Bench] where
  created : Bench → Nat
  creates : ∀ bench wallet token,
    created (AdapterBench.create bench wallet token).1 =
      created bench + if (AdapterBench.create bench wallet token).2.isOk then 1 else 0
  destroys : ∀ bench adapter, created (AdapterBench.destroy bench adapter) = created bench
  begins : ∀ bench adapter request,
    created (AdapterBench.begin bench adapter request).1 = created bench
  finishes : ∀ bench adapter request,
    created (AdapterBench.finish bench adapter request).1 = created bench

def CountingBench.evolves {Bench : Type} [AdapterBench Bench] [CountingBench Bench]
    (before after : Bench) : Prop := created after = created before

namespace SimulatedBench

variable (bench : SimulatedBench)

theorem length_fates : bench.fates.length = bench.created := by
  simp [fates, created]

theorem Keeps.created {before after : SimulatedBench} (keeps : Keeps before after) :
    after.created = before.created := by
  rw [← length_fates, ← length_fates, keeps.fates]

theorem create_created (wallet : Wallet) (token : Token) :
    (bench.create wallet token).1.created =
      bench.created + if (bench.create wallet token).2.isOk then 1 else 0 := by
  rcases bench.create_eq wallet token with ⟨error, same⟩ | ⟨place, fates, _, _⟩
  · rw [same]
    rfl
  · rw [place, ← length_fates, ← length_fates, fates]
    simp [Except.isOk, Except.toBool]

theorem destroy_created (id : AdapterId) : (bench.destroy id).created = bench.created := by
  rcases bench.destroy_eq id with ⟨same, _⟩ | ⟨_, fates, _, _⟩
  · rw [same]
  · rw [← length_fates, ← length_fates, fates, List.length_set]

instance : CountingBench SimulatedBench where
  created := created
  creates := create_created
  destroys := destroy_created
  begins bench id request := (bench.begin_keeps id request).created
  finishes bench id request := (bench.finish_keeps id request).created

end SimulatedBench

namespace ScriptedBench

instance : CountingBench ScriptedBench where
  created := created
  creates bench wallet token := by
    cases failure : (bench.scripts.headD {}).createError with
    | none =>
        simp only [AdapterBench.create, create, failure]
        simp [created, Except.isOk, Except.toBool]
    | some error =>
        simp only [AdapterBench.create, create, failure]
        rfl
  destroys bench id := by
    simp only [AdapterBench.destroy, destroy]
    split <;> simp [created, log, update]
  begins bench id request := by
    simp only [AdapterBench.begin, begin]
    split
    next => rfl
    next => cases request <;> rfl
  finishes bench id request := by
    simp only [AdapterBench.finish, finish]
    split
    next => rfl
    next =>
      cases request with
      | connect deviceId => dsimp only; split <;> simp [created, setConnected, update]
      | verify deviceId => simp [created, update]
      | disconnect => simp [created, setConnected, update]

end ScriptedBench

instance {Left Right : Type} [AdapterBench Left] [AdapterBench Right] [CountingBench Left]
    [CountingBench Right] : CountingBench (Left ⊕ Right) where
  created := Sum.elim CountingBench.created CountingBench.created
  creates
    | .inl bench, wallet, token => CountingBench.creates bench wallet token
    | .inr bench, wallet, token => CountingBench.creates bench wallet token
  destroys
    | .inl bench, adapter => CountingBench.destroys bench adapter
    | .inr bench, adapter => CountingBench.destroys bench adapter
  begins
    | .inl bench, adapter, request => CountingBench.begins bench adapter request
    | .inr bench, adapter, request => CountingBench.begins bench adapter request
  finishes
    | .inl bench, adapter, request => CountingBench.finishes bench adapter request
    | .inr bench, adapter, request => CountingBench.finishes bench adapter request

end SignerLink
