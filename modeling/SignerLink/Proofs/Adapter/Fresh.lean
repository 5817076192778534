import SignerLink.Proofs.Adapter.Counting
/-!
Benches that never hand out an adapter twice.
-/

namespace SignerLink

/-- A bench that numbers its adapters: those below a bound were created, and a new one is not
among them. -/
class FreshBench (Bench : Type) [AdapterBench Bench] where
  issued : Bench → Nat
  creates : ∀ bench wallet token,
    issued bench ≤ issued (AdapterBench.create bench wallet token).1 ∧
      ∀ adapter, (AdapterBench.create bench wallet token).2 = .ok adapter →
        issued bench ≤ adapter ∧ adapter < issued (AdapterBench.create bench wallet token).1
  destroys : ∀ bench adapter, issued bench ≤ issued (AdapterBench.destroy bench adapter)
  begins : ∀ bench adapter request,
    issued bench ≤ issued (AdapterBench.begin bench adapter request).1
  finishes : ∀ bench adapter request,
    issued bench ≤ issued (AdapterBench.finish bench adapter request).1

namespace SimulatedBench

instance : FreshBench SimulatedBench where
  issued := created
  creates bench wallet token := by
    rcases bench.create_eq wallet token with ⟨error, same⟩ | ⟨place, _⟩
    · refine ⟨Nat.le_of_eq (congrArg created (congrArg Prod.fst same).symm), ?_⟩
      intro adapter ok
      cases ok.symm.trans (congrArg Prod.snd same)
    · have more : (bench.create wallet token).1.created = bench.created + 1 := by
        rw [create_created, place]
        rfl
      refine ⟨Nat.le_of_lt (Nat.lt_of_lt_of_eq (Nat.lt_succ_self _) more.symm), ?_⟩
      intro adapter ok
      cases place.symm.trans ok
      rw [length_fates]
      exact ⟨Nat.le_refl _, Nat.lt_of_lt_of_eq (Nat.lt_succ_self _) more.symm⟩
  destroys bench id := (bench.destroy_created id).ge
  begins bench id request := (bench.begin_keeps id request).created.ge
  finishes bench id request := (bench.finish_keeps id request).created.ge

end SimulatedBench

namespace ScriptedBench

instance : FreshBench ScriptedBench where
  issued := created
  creates bench wallet token := by
    simp only [AdapterBench.create, create]
    split
    next => exact ⟨Nat.le_refl _, fun _ ok => by cases ok⟩
    next =>
      refine ⟨by simp [created], ?_⟩
      intro adapter ok
      cases ok
      simp [created]
  destroys bench adapter := (CountingBench.destroys bench adapter).ge
  begins bench adapter request := (CountingBench.begins bench adapter request).ge
  finishes bench adapter request := (CountingBench.finishes bench adapter request).ge

end ScriptedBench

instance {Left Right : Type} [AdapterBench Left] [AdapterBench Right] [FreshBench Left]
    [FreshBench Right] : FreshBench (Left ⊕ Right) where
  issued := Sum.elim FreshBench.issued FreshBench.issued
  creates
    | .inl bench, wallet, token => FreshBench.creates bench wallet token
    | .inr bench, wallet, token => FreshBench.creates bench wallet token
  destroys
    | .inl bench, adapter => FreshBench.destroys bench adapter
    | .inr bench, adapter => FreshBench.destroys bench adapter
  begins
    | .inl bench, adapter, request => FreshBench.begins bench adapter request
    | .inr bench, adapter, request => FreshBench.begins bench adapter request
  finishes
    | .inl bench, adapter, request => FreshBench.finishes bench adapter request
    | .inr bench, adapter, request => FreshBench.finishes bench adapter request

end SignerLink
