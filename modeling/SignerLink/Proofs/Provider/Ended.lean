import SignerLink.Proofs.Connection.Ended
import SignerLink.Proofs.Provider.Release
/-!
A provider whose session is over. Requests are turned down, and whatever goes on changes nothing
that is shown.
-/

namespace SignerLink

theorem PermissionGate.reset_published {gate : PermissionGate} (ended : gate.cancelled = true) :
    gate.reset.published = gate.published := by
  have ignores : (gate.begin .unknown).1.Ignores (gate.begin .unknown).2 := .inl ended
  have unchanged : gate.reset = (gate.begin .unknown).1 := ignores.commit
  rw [unchanged]
  rfl

namespace Provider

variable {Bench : Type} {provider before after : Provider Bench}

structure IsOver (provider : Provider Bench) : Prop where
  session : provider.isCancelled = true
  gate : provider.permission.cancelled = true

theorem IsOrderly.isOver (orderly : provider.IsOrderly) (ended : provider.isCancelled = true) :
    provider.IsOver := ⟨ended, orderly.cancelled.trans ended⟩

theorem IsOver.isSilent (isOver : provider.IsOver) : provider.IsSilent :=
  ⟨.inl isOver.session, .inl isOver.session, fun _ _ _ _ => .inl isOver.gate⟩

variable [AdapterBench Bench]

theorem connect_over (ended : provider.isCancelled = true) (wallet : Wallet)
    (deviceId : Option String) :
    provider.connect wallet deviceId = (provider, .finished (.attempt .aborted)) := by
  simp only [connect, ended, if_true]

theorem makeReady_over (ended : provider.isCancelled = true) (wallet : Wallet)
    (wanted : Option String) :
    provider.makeReady wallet wanted = (provider, .finished (.answered false)) := by
  simp only [makeReady, Connection.readiness_ended ended]

section Stays

variable [CountingBench Bench]

theorem IsOver.of_stays (isOver : before.IsOver) (stays : before.Stays after) : after.IsOver :=
  ⟨stays.connection.ended isOver.session, stays.gate isOver.gate⟩

theorem Stays.permitted {permission : PermissionGate}
    (published : permission.published = provider.permission.published)
    (cancelled : permission.cancelled = provider.permission.cancelled) :
    provider.Stays (provider.setPermission permission) :=
  ⟨.refl provider.connection, published, cancelled.trans, rfl, rfl⟩

theorem beginCheck_stays (wallet : Wallet) : provider.Stays (provider.beginCheck wallet).1 :=
  (Stays.asked _).trans (.permitted rfl rfl)

namespace IsOver

variable (isOver : provider.IsOver)

include isOver

theorem checkPermission_stays (wallet : Wallet) :
    provider.Stays (provider.checkPermission wallet).1 := by
  have begun : provider.Stays (provider.beginCheck wallet).1 := beginCheck_stays wallet
  simp only [checkPermission]
  split
  · exact begun.trans
      (permissionAnswered_changesNothing (.inl (isOver.of_stays begun).gate) _ _).stays
  · exact begun

theorem requestPermission_stays (wallet : Wallet) :
    provider.Stays (provider.requestPermission wallet).1 := by
  have begun : provider.Stays ((provider.setHost (provider.host.request wallet).1).setPermission
      (provider.permission.begin
        (.ofGrant ((provider.host.request wallet).2.answer.isGrant wallet))).1) :=
    (Stays.asked _).trans (.permitted rfl rfl)
  simp only [requestPermission]
  split
  · exact begun.trans
      (permissionAnswered_changesNothing (.inl (isOver.of_stays begun).gate) _ _).stays
  · exact begun

theorem begin_stays (request : Request) : provider.Stays (provider.begin request).1 := by
  have ended := isOver.session
  have nothing : provider.Stays provider := .refl provider
  cases request with
  | connect wallet deviceId =>
      rw [begin, connect_over ended]
      exact nothing
  | disconnect => exact .through (Connection.disconnect_stays ended)
  | retry =>
      simp only [begin, retry, makeReady_over ended]
      split <;> exact nothing
  | makeReady wallet deviceId =>
      simp only [begin, makeReady_over ended]
      split <;> exact nothing
  | operate operation => exact .through (Connection.operate_stays ended operation)
  | checkPermission wallet =>
      simp only [begin]
      split
      · exact nothing
      · exact isOver.checkPermission_stays _
  | requestPermission wallet =>
      simp only [begin]
      split
      · exact nothing
      · exact isOver.requestPermission_stays _
  | selectAccount account =>
      rw [begin, selectAccount_over ended]
      exact nothing
  | plugEvent event => exact (plugEvent_changesNothing (.inl ended) event).stays
  | shutdown =>
      simp only [begin, shutdown, ended, if_true]
      exact nothing
  | askHost question => exact (askHost_changesNothing question).stays
  | sleep milliseconds =>
      simp only [begin, sleep]
      split <;> exact nothing
  | join strands => exact (join_changesNothing strands _).stays

theorem perform_stays (work : Work) : provider.Stays (provider.perform work).1 := by
  cases work with
  | begin host request =>
      have asked : provider.Stays (provider.setHost host) := .asked host
      exact asked.trans ((isOver.of_stays asked).begin_stays request)
  | resume call => exact (resume_changesNothing isOver.isSilent fun _ _ => .inl isOver.gate).stays
  | evaluate epoch trigger =>
      exact (evaluate_changesNothing (.inl isOver.session) epoch trigger).stays

theorem advance_stays (strand : Strand) : provider.Stays (provider.advance strand) := by
  cases takes : provider.work? strand with
  | none => exact (advance_of_idle takes).stays (.inl isOver.session)
  | some taken =>
      obtain ⟨work, next⟩ := taken
      rw [advance_of_work takes]
      exact (isOver.perform_stays work).trans (.proceeded next _)

end IsOver

end Stays

/-- What may happen once the session is over. Any strand takes its turn, with whatever it was asked
for, and the application does what it likes, except that it does not reset the connection by
itself. -/
inductive Afterwards (evolves : Bench → Bench → Prop) :
    Provider Bench → Provider Bench → Prop where
  | remains {provider after : Provider Bench} :
      Remains evolves provider after → Afterwards evolves provider after
  | act (provider : Provider Bench) (strand : Strand) :
      strand ∈ provider.strands → provider.canMove strand = true →
      Afterwards evolves provider (provider.advance strand).letGo
  | react (provider : Provider Bench) (event : ConnectionEvent) :
      event.isEnd = false → event ≠ .reset →
      Afterwards evolves provider (provider.setConnection (provider.connection.react event))
  | resetPermission (provider : Provider Bench) :
      Afterwards evolves provider (provider.setPermission provider.permission.reset)

variable {evolves : Bench → Bench → Prop}

theorem Afterwards.transition (afterwards : Afterwards evolves before after) :
    Transition evolves before after := by
  cases afterwards with
  | remains remains => exact remains.transition
  | act strand member ready => exact .advance before strand member ready
  | react event goesOn _ => exact .react before event goesOn
  | resetPermission => exact .resetPermission before

/-- Every transition but a reset is one of these. -/
theorem Transition.afterwards (transition : Transition evolves before after) :
    Afterwards evolves before after ∨
      after = before.setConnection before.connection.reset := by
  cases transition with
  | advance strand member ready => exact .inl (.act before strand member ready)
  | react event goesOn =>
      by_cases resets : event = .reset
      · subst resets
        exact .inr rfl
      · exact .inl (.react before event goesOn resets)
  | resetPermission => exact .inl (.resetPermission before)
  | request request => exact .inl (.remains (.request before request))
  | wait later past => exact .inl (.remains (.wait before later past))
  | onBench change evolved => exact .inl (.remains (.onBench before change evolved))
  | onHost host => exact .inl (.remains (.onHost before host))
  | subscribe wallet => exact .inl (.remains (.subscribe before wallet))
  | startPump => exact .inl (.remains (.startPump before))
  | stopListening => exact .inl (.remains (.stopListening before))
  | watchAccounts account => exact .inl (.remains (.watchAccounts before account))
  | publishAccount store account => exact .inl (.remains (.publishAccount before store account))
  | closeStore store => exact .inl (.remains (.closeStore before store))
  | cancel => exact .inl (.remains (.cancel before))
  | drop => exact .inl (.remains (.drop before))

variable [CountingBench Bench]

theorem Afterwards.stays
    (creates : ∀ {earlier later}, evolves earlier later → CountingBench.evolves earlier later)
    (afterwards : Afterwards evolves before after) (isOver : before.IsOver) :
    before.Stays after := by
  cases afterwards with
  | remains remains => exact (remains.stays creates isOver.isSilent).1
  | act strand _ _ => exact (isOver.advance_stays strand).trans (letGo_stays _)
  | react event _ kept => exact .through (Connection.react_stays isOver.session kept)
  | resetPermission =>
      exact .permitted (PermissionGate.reset_published isOver.gate)
        (PermissionGate.reset_cancelled _)

theorem IsOver.stays
    (creates : ∀ {earlier later}, evolves earlier later → CountingBench.evolves earlier later)
    (isOver : before.IsOver) (run : Relation.ReflTransGen (Afterwards evolves) before after) :
    before.Stays after ∧ after.IsOver := by
  induction run with
  | refl => exact ⟨.refl before, isOver⟩
  | tail _ afterwards ih =>
      obtain ⟨stays, still⟩ := ih
      have kept := afterwards.stays creates still
      exact ⟨stays.trans kept, still.of_stays kept⟩

end Provider

end SignerLink
