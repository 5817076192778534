import SignerLink.Proofs.Provider.Pursuit
/-!
Work that has nothing to do with connecting without being asked. Besides who listens, all that is
tracked stays as it is, and nothing is put off to be tried again.
-/

namespace SignerLink

namespace Provider

variable {Bench : Type}

structure RetriesNothing (before after : Provider Bench) : Prop where
  policy : after.policy = before.policy
  now : after.now = before.now
  nextStrand : before.nextStrand ≤ after.nextStrand
  strands : ∃ spawned, after.strands = before.strands ++ spawned ∧
    ∀ strand ∈ spawned, strand.duty.pursued? = none

structure Steady (before after : Provider Bench) : Prop extends RetriesNothing before after where
  tracking : ∃ listener, after.tracking = { before.tracking with listener := listener }

variable {before middle after provider : Provider Bench}

namespace RetriesNothing

theorem aside (policy : after.policy = before.policy) (now : after.now = before.now)
    (nextStrand : after.nextStrand = before.nextStrand)
    (strands : after.strands = before.strands) : before.RetriesNothing after where
  policy := policy
  now := now
  nextStrand := nextStrand.ge
  strands := ⟨[], by simp [strands], by simp⟩

theorem refl (provider : Provider Bench) : provider.RetriesNothing provider := aside rfl rfl rfl rfl

theorem trans (first : before.RetriesNothing middle) (rest : middle.RetriesNothing after) :
    before.RetriesNothing after where
  policy := rest.policy.trans first.policy
  now := rest.now.trans first.now
  nextStrand := first.nextStrand.trans rest.nextStrand
  strands := by
    obtain ⟨some, same, plain⟩ := first.strands
    obtain ⟨more, later, plainer⟩ := rest.strands
    refine ⟨some ++ more, by rw [later, same, List.append_assoc], ?_⟩
    intro strand member
    rcases List.mem_append.mp member with member | member
    · exact plain strand member
    · exact plainer strand member

theorem spawned {duty : Duty} (plain : duty.pursued? = none) :
    provider.RetriesNothing (provider.spawn duty).1 where
  policy := rfl
  now := rfl
  nextStrand := Nat.le_succ _
  strands := by
    refine ⟨[{ id := provider.nextStrand, duty := duty }], rfl, ?_⟩
    intro strand member
    rw [List.mem_singleton.mp member]
    exact plain

theorem tracked (tracking : Tracking) : provider.RetriesNothing (provider.setTracking tracking) :=
  aside rfl rfl rfl rfl

end RetriesNothing

namespace Steady

theorem of_retriesNothing (retriesNothing : before.RetriesNothing after)
    (tracking : after.tracking = before.tracking) : before.Steady after :=
  ⟨retriesNothing, before.tracking.listener, tracking⟩

theorem refl (provider : Provider Bench) : provider.Steady provider :=
  of_retriesNothing (.refl _) rfl

theorem trans (first : before.Steady middle) (rest : middle.Steady after) :
    before.Steady after where
  toRetriesNothing := first.toRetriesNothing.trans rest.toRetriesNothing
  tracking := by
    obtain ⟨_, same⟩ := first.tracking
    obtain ⟨listener, later⟩ := rest.tracking
    exact ⟨listener, by rw [later, same]⟩

theorem through (connection : Connection Bench) :
    provider.Steady (provider.setConnection connection) :=
  of_retriesNothing (.aside rfl rfl rfl rfl) rfl

theorem asked (host : MemoryHost) : provider.Steady (provider.setHost host) :=
  of_retriesNothing (.aside rfl rfl rfl rfl) rfl

theorem permitted (permission : PermissionGate) :
    provider.Steady (provider.setPermission permission) :=
  of_retriesNothing (.aside rfl rfl rfl rfl) rfl

theorem started {duty : Duty} (plain : duty.pursued? = none) :
    provider.Steady (provider.spawn duty).1 := of_retriesNothing (.spawned plain) rfl

theorem listening (listener : Option Listener) :
    provider.Steady (provider.setTracking { provider.tracking with listener := listener }) :=
  ⟨.tracked _, listener, rfl⟩

theorem completedFor (steady : before.Steady after) :
    after.tracking.completedFor = before.tracking.completedFor := by
  obtain ⟨_, same⟩ := steady.tracking
  rw [same]

theorem retries (steady : before.Steady after) :
    after.tracking.retries = before.tracking.retries := by
  obtain ⟨_, same⟩ := steady.tracking
  rw [same]

end Steady

variable [AdapterBench Bench]

theorem Edit.steady {kind : EditKind} (uncounted : kind ≠ .count) (apart : kind ≠ .retry)
    (edit : Edit kind before after) : before.Steady after := by
  cases edit with
  | count _ _ _ => exact absurd rfl uncounted
  | putOff _ _ _ _ => exact absurd rfl apart
  | forward _ _ | listen _ _ => exact .started rfl
  | record _ _ | dismiss _ => exact .listening _
  | ask _ _ _ | subscribe _ _ | permit _ _ _ _ | begin _ _ | resume _ _ | react _ _ _ | cancel _
  | tearDown _ _ => exact .of_retriesNothing (.aside rfl rfl rfl rfl) rfl

theorem Edits.steady {kinds : List EditKind} (edits : before.Edits kinds after)
    (uncounted : .count ∉ kinds) (apart : .retry ∉ kinds) : before.Steady after :=
  edits.keeps Steady .refl .trans fun _ member =>
    Edit.steady (fun same => uncounted (same ▸ member)) fun same => apart (same ▸ member)

theorem PursuesNothing.steady {result : Provider Bench × Step}
    (passes : before.PursuesNothing result) : before.Steady result.1 :=
  passes.edits.steady (by decide) (by decide)

theorem turnTo_steady (wallet : Wallet) : provider.Steady (provider.turnTo wallet) :=
  (turnTo_edits wallet).steady (by decide) (by decide)

theorem beginCheck_steady (wallet : Wallet) : provider.Steady (provider.beginCheck wallet).1 :=
  (beginCheck_edits wallet).steady (by decide) (by decide)

/-! Outside the turns of strands. -/

theorem letGo_steady : provider.Steady provider.letGo :=
  letGo_edits.steady (by decide) (by decide)

theorem Transition.steady {evolves : Bench → Bench → Prop}
    (transition : Transition evolves before after) :
    (∃ strand ∈ before.strands, before.canMove strand = true ∧
      after = (before.advance strand).letGo) ∨
        ∃ later, Steady { before with now := later } after := by
  have aside {changed : Provider Bench} (retriesNothing : before.RetriesNothing changed)
      (tracking : changed.tracking = before.tracking) :
      ∃ later, Steady { before with now := later } changed :=
    ⟨before.now, .of_retriesNothing retriesNothing tracking⟩
  cases transition with
  | advance strand member ready => exact .inl ⟨strand, member, ready, rfl⟩
  | wait later _ => exact .inr ⟨later, .refl _⟩
  | request request => exact .inr ⟨before.now, .started rfl⟩
  | subscribe wallet =>
      exact .inr ⟨before.now, (subscribe_edits wallet).steady (by decide) (by decide)⟩
  | stopListening => exact .inr ⟨before.now, .listening none⟩
  | react _ _ | onBench _ _ | onHost _ | resetPermission | closeStore _ | cancel =>
      exact .inr (aside (.aside rfl rfl rfl rfl) rfl)
  | watchAccounts account =>
      have opened : before.RetriesNothing
          { before with stores := before.stores ++ [{ published := { value := account } }] } :=
        .aside rfl rfl rfl rfl
      exact .inr (aside (opened.trans (.spawned rfl)) rfl)
  | startPump =>
      have started : before.RetriesNothing { before with pumpStarted := true } :=
        .aside rfl rfl rfl rfl
      simp only [Provider.startPump]
      split
      · exact .inr (aside (.refl before) rfl)
      · exact .inr (aside (started.trans (.spawned rfl)) rfl)
  | publishAccount store account =>
      simp only [Provider.publishAccount]
      split
      · exact .inr (aside (.aside rfl rfl rfl rfl) rfl)
      · exact .inr (aside (.refl before) rfl)
  | drop =>
      have released : before.Steady { before with held := false } :=
        .of_retriesNothing (.aside rfl rfl rfl rfl) rfl
      exact .inr ⟨before.now, released.trans letGo_steady⟩

end Provider

end SignerLink
