import SignerLink.Proofs.Connection.Settled
import SignerLink.Proofs.Provider.Simulation
/-!
A provider is never stuck. Until it is shut down, a connect, a disconnect or an operation under
way is all that keeps its session from being settled.
-/

namespace SignerLink

namespace Provider

variable {Bench : Type} [AdapterBench Bench]

/-- All that strands wait for on the connection is whether a device is ready. -/
def IsQuiet (provider : Provider Bench) : Prop :=
  ∀ strand ∈ provider.strands, ∀ call ∈ strand.onConnection, call.isVerification = true

theorem mem_onConnection {strands : List Strand} {call : ConnectionCall}
    (member : call ∈ (strands.map Strand.onConnection).sum) :
    ∃ strand ∈ strands, call ∈ strand.onConnection := by
  induction strands with
  | nil => cases Multiset.notMem_zero call member
  | cons strand rest ih =>
      rw [List.map_cons, List.sum_cons, Multiset.mem_add] at member
      rcases member with here | there
      · exact ⟨strand, List.mem_cons_self, here⟩
      · obtain ⟨other, present, within⟩ := ih there
        exact ⟨other, List.mem_cons_of_mem strand present, within⟩

/-- Before it is shut down, a provider whose strands are in the middle of nothing but such checks
has a settled session. -/
theorem no_stuck_session [FreshBench Bench] {provider : Provider Bench}
    (reachable : provider.Reachable FreshBench.evolves) (goesOn : provider.isCancelled = false)
    (quiet : provider.IsQuiet) : provider.connection.IsSettled := by
  refine reachable.run.2.settled goesOn ?_
  intro call member
  obtain ⟨strand, present, within⟩ := mem_onConnection member
  exact quiet strand present call within

def connectedOnce : Provider SimulatedBench :=
  let asked := ({ connection := { bench := {} } } : Provider SimulatedBench).spawn
    (.caller (.connect .ledger (some "left")))
  (asked.1.advance { id := asked.2, duty := .caller (.connect .ledger (some "left")) }).letGo

theorem no_stuck_session_connectedOnce :
    connectedOnce.connection.session.adapter = some 0 ∧ connectedOnce.connection.IsSettled := by
  have asked :
      Transition FreshBench.evolves { connection := { bench := ({} : SimulatedBench) } } _ :=
    .request _ (.connect .ledger (some "left"))
  have reachable : connectedOnce.Reachable FreshBench.evolves :=
    ⟨_, ⟨rfl, rfl⟩, .tail (.single asked) (.advance _ _ List.mem_cons_self rfl)⟩
  have strands : connectedOnce.strands = [] := rfl
  refine ⟨rfl, no_stuck_session reachable rfl ?_⟩
  intro strand member
  rw [strands] at member
  cases member

end Provider

end SignerLink
