import SignerLink.Proofs.Connection.Supersession
import SignerLink.Proofs.Provider.Pursuit
/-!
Account selections while an attempt holds the session. The newly selected account is checked, but
its evaluation finds the connection busy and gives up.
-/

namespace SignerLink

def Call.connects? : Call → Option (Nat × Token)
  | .autoConnect epoch _ _ call => some (epoch, call.token)
  | .attempt _ | .readiness _ | .disconnect _ | .operation _ | .permission _ _ _
  | .accountCheck _ _ | .attachCheck _ _ _ | .search _ _ | .host _ _ | .joining _ _ => none

namespace Strand

def connects? (strand : Strand) : Option (Nat × Token) :=
  strand.call.bind fun waiting => waiting.1.connects?

/-- The strand has selected the account and waits to learn whether the wallet may be used. -/
def ChecksFor (strand : Strand) (epoch : Nat) : Prop :=
  ∃ call due, strand.call = some (.accountCheck epoch call, due)

variable {strand : Strand} {epoch : Nat} {token : Token}

theorem call_of_connects (connects : strand.connects? = some (epoch, token)) :
    ∃ account trigger call due,
      strand.call = some (.autoConnect epoch account trigger call, due) ∧ call.token = token := by
  obtain ⟨⟨call, due⟩, waits, connects⟩ := Option.bind_eq_some_iff.mp connects
  cases call with
  | autoConnect epoch account trigger call =>
      cases connects
      exact ⟨account, trigger, call, due, waits, rfl⟩
  | _ => cases connects

theorem pursued?_of_connects (connects : strand.connects? = some (epoch, token)) :
    strand.pursued? = some epoch := by
  obtain ⟨account, trigger, call, due, waits, _⟩ := call_of_connects connects
  exact pursued?_waiting waits

end Strand

structure Connection.IsEngaged {Bench : Type} (connection : Connection Bench) (token : Token) :
    Prop where
  current : connection.session.token = some token
  issued : token ≤ connection.lastToken
  busy : connection.session.connecting = true

namespace Provider

variable {Bench : Type} [AdapterBench Bench] {before after provider : Provider Bench}
  {strand former : Strand} {work : Work} {epoch : Nat} {token : Token}

/-! What is begun while an attempt holds the session. -/

theorem eligible?_busy (busy : provider.connection.session.connecting = true) (epoch : Nat)
    (trigger : Trigger) : provider.eligible? epoch trigger = none := by
  cases eligible : provider.eligible? epoch trigger with
  | none => rfl
  | some chosen =>
      have still := (isAllowed_of_eligible eligible "").still
      exact absurd (still.symm.trans busy) Bool.false_ne_true

theorem evaluate_busy (busy : provider.connection.session.connecting = true) (epoch : Nat)
    (trigger : Trigger) : provider.evaluate epoch trigger = (provider, .finished .done) :=
  evaluate_of_ineligible (eligible?_busy busy epoch trigger)

theorem searched_busy (busy : provider.connection.session.connecting = true) (epoch : Nat)
    (found : DeviceSearch) : provider.searched epoch found = (provider, .finished .done) := by
  simp only [searched, autoConnect, eligible?_busy busy]
  split
  · split <;> rfl
  · rfl

theorem accountChecked_busy (busy : provider.connection.session.connecting = true) (epoch : Nat)
    (call : PermissionCall) : (provider.accountChecked epoch call).2 = .finished .done := by
  have still : (provider.setPermission
      (provider.permission.commit call)).connection.session.connecting = true := busy
  simp only [accountChecked, evaluate_busy still, ite_self]

theorem attachChecked_busy (busy : provider.connection.session.connecting = true) (epoch : Nat)
    (deviceId : String) (call : PermissionCall) :
    (provider.attachChecked epoch deviceId call).2 = .finished .done := by
  have still : ((provider.setPermission (provider.permission.commit call)).setTracking
      { provider.tracking with retries := 0 }).connection.session.connecting = true := busy
  simp only [attachChecked]
  split
  · exact congrArg Prod.snd (evaluate_busy still epoch _)
  · rfl

theorem plugEvent_busy (busy : provider.connection.session.connecting = true) (event : PlugEvent) :
    (provider.plugEvent event).2.pursued? = none := by
  cases event with
  | detached device => exact (detached_pursuesNothing device).silent
  | attached device =>
      have held : provider.connection.isBusy = true := by simp [Connection.isBusy, busy]
      simp only [plugEvent, held, if_true]
      split
      · rfl
      · split <;> rfl

theorem superseded_of_reset {connection : Connection Bench}
    (engaged : connection.IsEngaged token) : connection.reset.IsSuperseded token := by
  refine ⟨?_, ?_⟩
  · rw [Connection.reset_lastToken]
    exact engaged.issued
  · simp [Connection.reset_session]

theorem Acts.superseded {taken left : Multiset ConnectionCall}
    (acts : Acts (fun _ _ => True) before taken after left)
    (given : before.connection.IsSuperseded token) : after.connection.IsSuperseded token :=
  (acts.steps 0).superseded given

theorem selectAccount_engaged {account : Account} {call : Call} {milliseconds : Nat}
    (engaged : provider.connection.IsEngaged token)
    (ends : (provider.selectAccount account).2 = .waiting call milliseconds)
    (pursued : call.pursued? = some epoch) :
    (∃ check, call = .accountCheck epoch check) ∨
      (provider.selectAccount account).1.connection.session.token ≠ some token := by
  simp only [selectAccount] at ends ⊢
  split at ends
  next => cases ends
  next goes =>
    rw [if_neg goes]
    split at ends
    next => cases ends
    next wallet named =>
      have turned : (((provider.track account).turnTo wallet).beginCheck wallet).1.connection =
            provider.connection ∨
          (((provider.track account).turnTo wallet).beginCheck wallet).1.connection =
            provider.connection.reset := turnTo_connection wallet
      split at ends
      next instant =>
        rw [if_pos instant]
        rcases turned with kept | reset
        · rw [accountChecked_busy (kept ▸ engaged.busy)] at ends
          cases ends
        · have lost := superseded_of_reset engaged
          rw [← reset] at lost
          exact .inr (Acts.superseded (accountChecked_does _ _) lost).stale
      next later =>
        cases ends
        cases pursued
        exact .inl ⟨_, rfl⟩

omit [AdapterBench Bench] in
theorem followAttempt_waits {selection : Nat} {account : Account} {trigger : Trigger}
    {progress : Connection.AttemptProgress} {call : Call} {milliseconds : Nat}
    (ends : (provider.followAttempt selection account trigger progress).2 =
      .waiting call milliseconds) :
    ∃ attempt, progress = .waiting attempt milliseconds ∧
      call = .autoConnect selection account trigger attempt := by
  cases progress with
  | waiting attempt _ =>
      cases ends
      exact ⟨attempt, rfl, rfl⟩
  | finished outcome => cases ends

theorem perform_busy {call : Call} {milliseconds : Nat}
    (busy : provider.connection.session.connecting = true)
    (ends : (provider.perform work).2 = .waiting call milliseconds)
    (pursued : call.pursued? = some epoch) :
    (∃ host account, work = .begin host (.selectAccount account)) ∨
      ∃ account trigger attempt, work = .resume (.autoConnect epoch account trigger attempt) := by
  have silent (nothing : (provider.perform work).2.pursued? = none) : False := by
    rw [ends] at nothing
    exact Option.some_ne_none epoch (pursued.symm.trans nothing)
  cases work with
  | evaluate selection trigger =>
      refine (silent ?_).elim
      rw [perform, evaluate_busy busy]
      rfl
  | resume waiting =>
      cases waiting with
      | autoConnect selection account trigger attempt =>
          obtain ⟨_, _, rfl⟩ := followAttempt_waits ends
          cases pursued
          exact .inr ⟨account, trigger, attempt, rfl⟩
      | accountCheck selection check =>
          exact (silent (congrArg Step.pursued? (accountChecked_busy busy selection check))).elim
      | attachCheck selection deviceId check =>
          exact (silent
            (congrArg Step.pursued? (attachChecked_busy busy selection deviceId check))).elim
      | search selection found =>
          refine (silent ?_).elim
          rw [perform, resume, searched_busy busy]
          rfl
      | _ => exact (silent (resume_pursuesNothing rfl).silent).elim
  | begin host request =>
      cases request with
      | selectAccount account => exact .inl ⟨host, account, rfl⟩
      | plugEvent event =>
          have still : (provider.setHost host).connection.session.connecting = true := busy
          exact (silent (plugEvent_busy still event)).elim
      | _ => exact (silent (begin_pursuesNothing (by simp) (by simp)).silent).elim

theorem perform_engaged {call : Call} {milliseconds : Nat}
    (engaged : provider.connection.IsEngaged token)
    (ends : (provider.perform work).2 = .waiting call milliseconds)
    (pursued : call.pursued? = some epoch) :
    (∃ check, call = .accountCheck epoch check) ∨
      (∃ account trigger attempt, work = .resume (.autoConnect epoch account trigger attempt)) ∨
      (provider.perform work).1.connection.session.token ≠ some token := by
  rcases perform_busy engaged.busy ends pursued with ⟨host, account, rfl⟩ | resumed
  · have still : (provider.setHost host).connection.IsEngaged token := engaged
    exact (selectAccount_engaged still ends pursued).imp_right .inr
  · exact .inr (.inl resumed)

/-! Patience. -/

/-- While an attempt holds the session, whatever is under way for a later account selection is the
check of that account. -/
def IsPatient (provider : Provider Bench) : Prop :=
  ∀ strand ∈ provider.strands, ∀ epoch token, strand.connects? = some (epoch, token) →
    provider.connection.session.token = some token →
    ∀ other ∈ provider.strands, ∀ later, other.pursued? = some later → epoch < later →
      other.ChecksFor later

omit [AdapterBench Bench] in
theorem flies_of_connects (member : strand ∈ provider.strands)
    (connects : strand.connects? = some (epoch, token)) :
    ∃ adapter, .attempt token adapter ∈ provider.run.situation.flights := by
  obtain ⟨account, trigger, call, due, waits, rfl⟩ := Strand.call_of_connects connects
  have mine : strand.onConnection = {.attempt call} := by rw [Strand.onConnection, waits]; rfl
  have under : .attempt call ∈ provider.onConnection :=
    mem_sum_of_mem member (mine ▸ Multiset.mem_singleton_self _)
  have flies : (ConnectionCall.attempt call).flight ∈ provider.run.situation.flights :=
    Multiset.mem_map_of_mem _ under
  cases call with
  | searching token wallet found => exact ⟨none, flies⟩
  | connecting token wallet deviceId adapter => exact ⟨some adapter, flies⟩

section Reached

variable (reached : provider.run.Reachable fun _ _ => True)

include reached

theorem issued_of_connects (member : strand ∈ provider.strands)
    (connects : strand.connects? = some (epoch, token)) :
    token ≤ provider.connection.lastToken := by
  obtain ⟨adapter, flies⟩ := flies_of_connects member connects
  exact reached.issued.flights _ flies

theorem engaged_of_connects (member : strand ∈ provider.strands)
    (connects : strand.connects? = some (epoch, token))
    (current : provider.connection.session.token = some token) :
    provider.connection.IsEngaged token := by
  obtain ⟨adapter, flies⟩ := flies_of_connects member connects
  exact ⟨current, reached.issued.flights _ flies,
    (reached.engaged Connection.serves_always).attempts token adapter current flies⟩

theorem token_of_later {later : Connection Bench} (member : strand ∈ provider.strands)
    (connects : strand.connects? = some (epoch, token))
    (superseded : provider.connection.IsSuperseded token → later.IsSuperseded token)
    (current : later.session.token = some token) :
    provider.connection.session.token = some token := by
  by_contra stale
  exact (superseded ⟨issued_of_connects reached member connects, stale⟩).stale current

end Reached

theorem advance_connects {next : Strand} (takes : before.work? former = some (work, next))
    (present : former ∈ before.strands) (member : strand ∈ (before.advance former).strands)
    (connects : strand.connects? = some (epoch, token)) :
    epoch = (before.turned work).tracking.epoch ∨
      ∃ origin ∈ before.strands, origin.connects? = some (epoch, token) := by
  cases advance_inLineAfter takes member with
  | bystander stood _ => exact .inr ⟨strand, stood, connects⟩
  | offshoot offshoot _ =>
      rw [Strand.connects?, offshoot.idle] at connects
      cases connects
  | rests _ same =>
      rw [same] at connects
      cases connects
  | waits call milliseconds due ends same =>
      obtain ⟨account, trigger, attempt, _, waits, rfl⟩ := Strand.call_of_connects connects
      rw [same] at waits
      cases waits
      have pursued : (before.perform work).2.pursued? = some epoch := by rw [ends]; rfl
      refine ((before.perform_pursuesCurrent work).pursued epoch pursued).imp_right fun goesOn => ?_
      obtain ⟨_, _, earlier, rfl⟩ := Work.attempt_of_pursued goesOn
      obtain ⟨_, waited⟩ := call_of_resume takes
      obtain ⟨_, continues, same⟩ := followAttempt_waits ends
      cases same
      refine ⟨former, present, ?_⟩
      rw [(Connection.resumeAttempt_pursues earlier).waits _ _ continues, Strand.connects?, waited]
      rfl

namespace IsPatient

theorem of_mem (patient : before.IsPatient) (reached : before.run.Reachable fun _ _ => True)
    (superseded : ∀ token, before.connection.IsSuperseded token →
      after.connection.IsSuperseded token)
    (stands : ∀ strand ∈ after.strands, strand ∈ before.strands ∨ strand.pursued? = none) :
    after.IsPatient := by
  have stood {strand : Strand} (member : strand ∈ after.strands) {epoch : Nat}
      (pursued : strand.pursued? = some epoch) : strand ∈ before.strands := by
    rcases stands strand member with stood | plain
    · exact stood
    · exact absurd (pursued.symm.trans plain) (Option.some_ne_none epoch)
  intro strand member epoch token connects current other present later pursued
  have connected := stood member (Strand.pursued?_of_connects connects)
  have held := token_of_later reached connected connects (superseded token) current
  exact patient strand connected epoch token connects held other (stood present pursued) later
    pursued

theorem advance (patient : before.IsPatient) (distinct : before.Distinct)
    (reached : before.run.Reachable fun _ _ => True) (timely : before.IsTimely)
    (present : former ∈ before.strands) : (before.advance former).IsPatient := by
  have steps : Run.Steps (fun _ _ => True) before.run (before.advance former).run :=
    (advance_simulates distinct present).steps
  cases takes : before.work? former with
  | none =>
      exact patient.of_mem reached (fun token => steps.superseded)
        fun strand member => .inl ((advance_of_idle takes).strands strand member)
  | some taken =>
      obtain ⟨work, next⟩ := taken
      intro strand member epoch token connects current other within later pursued more
      have bound := timely.advance_pursued present takes within pursued
      rcases advance_connects takes present member connects with rfl | ⟨origin, stood, connected⟩
      · -- An attempt that begins in this turn is for the last selection, and none is later.
        exact absurd more (Nat.not_lt_of_le bound)
      have held := token_of_later reached stood connected steps.superseded current
      have result : (before.advance former).connection = (before.perform work).1.connection := by
        rw [advance_of_work takes, proceed_connection]
      rw [result] at current
      cases advance_inLineAfter takes within with
      | bystander waited _ =>
          exact patient origin stood epoch token connected held other waited later pursued more
      | offshoot offshoot released =>
          rw [Strand.pursued?_idle offshoot.idle] at pursued
          rw [released (by simp [pursued])] at current
          cases current
      | rests plain same =>
          rw [same, Strand.pursued?, plain] at pursued
          cases pursued
      | waits call milliseconds due ends same =>
          have engaged := engaged_of_connects reached stood connected held
          have begun : call.pursued? = some later := by
            rw [same] at pursued
            exact pursued
          rcases perform_engaged engaged ends begun with
            ⟨check, rfl⟩ | ⟨account, trigger, attempt, rfl⟩ | lost
          · exact ⟨check, due, by rw [same]⟩
          · -- An attempt for the later selection was not under way before either.
            obtain ⟨due, waited⟩ := call_of_resume takes
            obtain ⟨check, time, checks⟩ := patient origin stood epoch token connected held former
              present later (Strand.pursued?_waiting waited) more
            cases waited.symm.trans checks
          · exact absurd current lost

end IsPatient

theorem Transition.isPatient (transition : Transition (fun _ _ => True) before after)
    (reachable : before.Reachable fun _ _ => True) (patient : before.IsPatient) :
    after.IsPatient := by
  obtain ⟨distinct, reached⟩ := reachable.run
  rcases transition.outside with ⟨strand, member, _, rfl⟩ | outside
  · have turn : Simulates (fun _ _ => True) before (before.advance strand) :=
      advance_simulates distinct member
    have ends : Acts (fun _ _ => True) (before.advance strand) 0 (before.advance strand).letGo 0 :=
      letGo_edits.acts (by decide)
    have turned := patient.advance distinct reached reachable.isTimely member
    obtain ⟨bench, steps⟩ := reached
    refine turned.of_mem ⟨bench, steps.trans turn.steps⟩ (fun token => ends.superseded) ?_
    rw [letGo_strands]
    exact fun strand member => .inl member
  · exact patient.of_mem reached (fun token => (transition.simulates distinct).steps.superseded)
      fun strand => outside.stood

theorem Reachable.isPatient (reachable : provider.Reachable fun _ _ => True) :
    provider.IsPatient := by
  obtain ⟨first, new, transitions⟩ := reachable
  induction transitions with
  | refl => simp [IsPatient, new.strands]
  | tail earlier transition ih => exact transition.isPatient ⟨first, new, earlier⟩ ih

end Provider

end SignerLink
