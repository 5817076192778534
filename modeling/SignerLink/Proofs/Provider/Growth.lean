import SignerLink.Proofs.Provider.Edits
/-!
What only ever grows in a provider. Account selections are counted, and so are the permission
calls; strands are added at the end of the line, and none of them has begun when it is added.
-/

namespace SignerLink

def Call.permission? : Call → Option PermissionCall
  | .permission call _ _ | .accountCheck _ call | .attachCheck _ _ call => some call
  | .attempt _ | .readiness _ | .disconnect _ | .operation _ | .search _ _
  | .autoConnect _ _ _ _ | .host _ _ | .joining _ _ => none

def Strand.asked? (strand : Strand) : Option PermissionCall :=
  strand.call.bind fun waiting => waiting.1.permission?

theorem Strand.asked?_idle {strand : Strand} (idle : strand.call = none) :
    strand.asked? = none := by
  rw [asked?, idle, Option.bind_none]

namespace Provider

variable {Bench : Type}

def Step.asked? : Step → Option PermissionCall
  | .waiting call _ => call.permission?
  | .finished _ => none

theorem Step.IsPlain.asked?_none {step : Step} (plain : step.IsPlain) : step.asked? = none := by
  cases step with
  | finished reply => rfl
  | waiting call milliseconds =>
      have kind := plain call milliseconds rfl
      cases call <;> first | rfl | cases kind

structure Ages (before after : Provider Bench) : Prop where
  epoch : before.tracking.epoch ≤ after.tracking.epoch
  account : after.tracking.epoch = before.tracking.epoch →
    after.tracking.account = before.tracking.account
  latest : before.permission.latest ≤ after.permission.latest
  agree : before.permission.cancelled = before.isCancelled →
    after.permission.cancelled = after.isCancelled

structure Grows (before after : Provider Bench) : Prop extends Ages before after where
  strands : ∃ spawned, after.strands = before.strands ++ spawned ∧
    ∀ strand ∈ spawned, strand.call = none

variable {before middle after provider : Provider Bench} {connection : Connection Bench}
  {result : Provider Bench × Step}

namespace Ages

theorem of_same (tracking : after.tracking = before.tracking)
    (permission : after.permission = before.permission)
    (cancelled : after.isCancelled = before.isCancelled) : before.Ages after where
  epoch := by rw [tracking]
  account _ := by rw [tracking]
  latest := by rw [permission]
  agree same := by rw [permission, cancelled, same]

theorem refl (provider : Provider Bench) : provider.Ages provider := of_same rfl rfl rfl

theorem trans (first : before.Ages middle) (rest : middle.Ages after) : before.Ages after where
  epoch := first.epoch.trans rest.epoch
  account same := by
    -- Between equal ends nothing has been selected in the middle either.
    have least := first.epoch
    have most := rest.epoch
    have between : middle.tracking.epoch = before.tracking.epoch := by omega
    exact (rest.account (same.trans between.symm)).trans (first.account between)
  latest := first.latest.trans rest.latest
  agree same := rest.agree (first.agree same)

end Ages

namespace Grows

theorem of_ages (ages : before.Ages after) (strands : after.strands = before.strands) :
    before.Grows after :=
  ⟨ages, [], by simp [strands], by simp⟩

theorem aside (strands : after.strands = before.strands)
    (tracking : after.tracking = before.tracking)
    (permission : after.permission = before.permission)
    (cancelled : after.isCancelled = before.isCancelled) : before.Grows after :=
  of_ages (.of_same tracking permission cancelled) strands

theorem refl (provider : Provider Bench) : provider.Grows provider := aside rfl rfl rfl rfl

theorem trans (first : before.Grows middle) (rest : middle.Grows after) :
    before.Grows after where
  toAges := first.toAges.trans rest.toAges
  strands := by
    obtain ⟨some, same, new⟩ := first.strands
    obtain ⟨more, later, newer⟩ := rest.strands
    refine ⟨some ++ more, by rw [later, same, List.append_assoc], ?_⟩
    intro strand member
    rcases List.mem_append.mp member with member | member
    · exact new strand member
    · exact newer strand member

theorem spawned (duty : Duty) : provider.Grows (provider.spawn duty).1 where
  toAges := .of_same rfl rfl rfl
  strands := by
    refine ⟨[{ id := provider.nextStrand, duty := duty }], rfl, ?_⟩
    intro strand member
    rw [List.mem_singleton.mp member]

theorem through (cancelled : connection.cancelled = provider.isCancelled) :
    provider.Grows (provider.setConnection connection) := aside rfl rfl rfl cancelled

theorem asked (host : MemoryHost) : provider.Grows (provider.setHost host) :=
  aside rfl rfl rfl rfl

theorem counted {tracking : Tracking} (epoch : tracking.epoch = provider.tracking.epoch)
    (account : tracking.account = provider.tracking.account) :
    provider.Grows (provider.setTracking tracking) :=
  of_ages ⟨epoch.ge, fun _ => account, Nat.le_refl _, id⟩ rfl

theorem permitted {permission : PermissionGate}
    (latest : provider.permission.latest ≤ permission.latest)
    (cancelled : permission.cancelled = provider.permission.cancelled) :
    provider.Grows (provider.setPermission permission) :=
  of_ages ⟨Nat.le_refl _, fun _ => rfl, latest, fun same => cancelled.trans same⟩ rfl

theorem mem_strands (grows : before.Grows after) {strand : Strand}
    (member : strand ∈ after.strands) : strand ∈ before.strands ∨ strand.call = none := by
  obtain ⟨spawned, same, new⟩ := grows.strands
  rw [same] at member
  rcases List.mem_append.mp member with old | fresh
  · exact .inl old
  · exact .inr (new strand fresh)

end Grows

def IsNumbered (result : Provider Bench × Step) : Prop :=
  ∀ asked, result.2.asked? = some asked → asked.number ≤ result.1.permission.latest

namespace IsNumbered

theorem of_silent (silent : result.2.asked? = none) : IsNumbered result := by
  intro asked found
  rw [silent] at found
  cases found

theorem latest {call : Call} {asked : PermissionCall} {milliseconds : Nat}
    (asks : call.permission? = some asked) (bound : asked.number ≤ after.permission.latest) :
    IsNumbered (after, .waiting call milliseconds) := by
  intro other found
  cases asks.symm.trans found
  exact bound

theorem ite {condition : Prop} [Decidable condition] {yes no : Provider Bench × Step}
    (first : IsNumbered yes) (second : IsNumbered no) :
    IsNumbered (if condition then yes else no) := by
  split
  · exact first
  · exact second

end IsNumbered

variable [AdapterBench Bench]

theorem Edit.grows {kind : EditKind} (edit : Edit kind before after) : before.Grows after := by
  cases edit with
  | ask _ _ _ | subscribe _ _ => exact .asked _
  | forward _ _ | listen _ _ | putOff _ _ _ _ => exact .spawned _
  | record _ _ | dismiss _ | count _ _ _ => exact .counted rfl rfl
  | permit _ permission latest cancelled => exact .permitted latest cancelled
  | begin _ request => exact .through (Connection.begin_cancelled request)
  | resume _ call => exact .through (Connection.resume_cancelled call)
  | react _ event goesOn => exact .through (Connection.react_cancelled goesOn)
  | cancel _ => exact .of_ages ⟨Nat.le_refl _, fun _ => rfl, Nat.le_refl _, fun _ => rfl⟩ rfl
  | tearDown _ ended => exact .through (Connection.teardown_cancelled _)

theorem Edits.grows {kinds : List EditKind} (edits : before.Edits kinds after) :
    before.Grows after := edits.keeps Grows .refl .trans fun _ _ => Edit.grows

omit [AdapterBench Bench] in
theorem track_grows (account : Account) : provider.Grows (provider.track account) := by
  refine .of_ages ⟨Nat.le_succ _, fun same => ?_, Nat.le_refl _, id⟩ rfl
  exact absurd same (Nat.succ_ne_self _)

theorem perform_grows (work : Work) : provider.Grows (provider.perform work).1 := by
  have faced : provider.Grows (provider.facing work) := by
    cases work with
    | begin host request => exact .asked host
    | resume _ | evaluate _ _ => exact .refl provider
  have worked : (provider.facing work).WorkDone (provider.perform work).1 := perform_done work
  refine faced.trans ?_
  cases worked with
  | edits edits => exact edits.grows
  | turnTo account wallet _ edits =>
      exact ((track_grows account).trans (turnTo_edits wallet).grows).trans edits.grows
  | release account same => exact same ▸ (track_grows account).trans release_edits.grows

/-! Permission calls. -/

theorem Errand.numbered {taken : Multiset ConnectionCall}
    (errand : Errand provider taken result) : IsNumbered result :=
  .of_silent errand.plain.asked?_none

omit [AdapterBench Bench] in
theorem followAttempt_silent (epoch : Nat) (account : Account) (trigger : Trigger)
    (progress : Connection.AttemptProgress) :
    (provider.followAttempt epoch account trigger progress).2.asked? = none := by
  cases progress <;> rfl

theorem autoConnect_silent (epoch : Nat) (trigger : Trigger) (deviceId : String) :
    (provider.autoConnect epoch trigger deviceId).2.asked? = none := by
  simp only [autoConnect]
  split
  next => rfl
  next => exact followAttempt_silent _ _ _ _

theorem searched_silent (epoch : Nat) (found : DeviceSearch) :
    (provider.searched epoch found).2.asked? = none := by
  simp only [searched]
  split
  next =>
    split
    next => exact autoConnect_silent _ _ _
    next => rfl
  next => rfl

theorem evaluate_silent (epoch : Nat) (trigger : Trigger) :
    (provider.evaluate epoch trigger).2.asked? = none := by
  simp only [evaluate]
  split
  next => rfl
  next =>
    split
    next => exact autoConnect_silent _ _ _
    next =>
      split
      next => exact searched_silent _ _
      next => rfl

theorem accountChecked_silent (epoch : Nat) (call : PermissionCall) :
    (provider.accountChecked epoch call).2.asked? = none := by
  simp only [accountChecked]
  split
  next => exact evaluate_silent _ _
  next => rfl

theorem attachChecked_silent (epoch : Nat) (deviceId : String) (call : PermissionCall) :
    (provider.attachChecked epoch deviceId call).2.asked? = none := by
  simp only [attachChecked]
  split
  next => exact evaluate_silent _ _
  next => rfl

theorem selectAccount_numbered (account : Account) :
    IsNumbered (provider.selectAccount account) := by
  simp only [selectAccount]
  split
  next => exact .of_silent rfl
  next =>
    split
    next => exact .of_silent rfl
    next => exact .ite (.of_silent (accountChecked_silent _ _)) (.latest rfl (Nat.le_refl _))

theorem plugEvent_numbered (event : PlugEvent) : IsNumbered (provider.plugEvent event) := by
  simp only [plugEvent]
  split
  next => exact .of_silent rfl
  next =>
    split
    next => exact .of_silent rfl
    next =>
      split
      next => exact .ite (.of_silent rfl) (.of_silent rfl)
      next =>
        exact .ite (.of_silent rfl)
          (.ite (.of_silent (attachChecked_silent _ _ _)) (.latest rfl (Nat.le_refl _)))

theorem shutdown_numbered : IsNumbered provider.shutdown := by
  simp only [shutdown]
  split
  next => exact .of_silent rfl
  next => exact (join_errand _ _).numbered

theorem begin_numbered (request : Request) : IsNumbered (provider.begin request) := by
  cases request with
  | selectAccount account => exact selectAccount_numbered account
  | plugEvent event => exact plugEvent_numbered event
  | shutdown => exact shutdown_numbered
  | checkPermission _ | requestPermission _ =>
      simp only [begin]
      split
      next => exact .of_silent rfl
      next => exact .ite (.of_silent rfl) (.latest rfl (Nat.le_refl _))
  | _ => exact (begin_errand rfl).numbered

theorem resume_numbered (call : Call) : IsNumbered (provider.resume call) := by
  cases call with
  | autoConnect _ _ _ _ => exact .of_silent (followAttempt_silent _ _ _ _)
  | permission _ _ _ => exact .of_silent rfl
  | accountCheck epoch call => exact .of_silent (accountChecked_silent epoch call)
  | attachCheck epoch deviceId call => exact .of_silent (attachChecked_silent epoch deviceId call)
  | search epoch found => exact .of_silent (searched_silent epoch found)
  | _ => exact (resume_errand rfl).numbered

theorem perform_numbered (work : Work) : IsNumbered (provider.perform work) := by
  cases work with
  | begin host request => exact begin_numbered request
  | resume call => exact resume_numbered call
  | evaluate epoch trigger => exact .of_silent (evaluate_silent epoch trigger)

/-! Turns and transitions. -/

theorem letGo_ages : provider.Ages provider.letGo := letGo_edits.grows.toAges

theorem letGo_strands : provider.letGo.strands = provider.strands := by
  simp only [letGo]
  split
  next => rfl
  next => split <;> split <;> rfl

theorem letGo_tracking : provider.letGo.tracking = provider.tracking := by
  simp only [letGo]
  split
  next => rfl
  next => split <;> split <;> rfl

theorem advance_ages (strand : Strand) : provider.Ages (provider.advance strand) := by
  cases takes : provider.work? strand with
  | none =>
      have idles := advance_of_idle takes
      refine .of_same idles.tracking idles.permission ?_
      simp only [isCancelled]
      rcases idles.connection with same | same | same
      · rw [same]
      · have pumped : (provider.connection.react .pump).cancelled = provider.connection.cancelled :=
          Connection.react_cancelled rfl
        rw [same]
        exact pumped
      · rw [same]
        rfl
  | some taken =>
      obtain ⟨work, next⟩ := taken
      rw [advance_of_work takes]
      refine (perform_grows work).toAges.trans (.of_same ?_ ?_ ?_)
      · exact proceed_tracking _ _ _
      · exact proceed_permission _ _ _
      · simp only [isCancelled, proceed_connection]

variable {evolves : Bench → Bench → Prop}

omit [AdapterBench Bench] in
theorem startPump_grows : provider.Grows provider.startPump.1 := by
  have started : provider.Grows { provider with pumpStarted := true } := .aside rfl rfl rfl rfl
  simp only [startPump]
  split
  · exact .refl provider
  · exact started.trans (.spawned _)

omit [AdapterBench Bench] in
theorem watchAccounts_grows (account : Account) :
    provider.Grows (provider.watchAccounts account).1 := by
  have opened : provider.Grows
      { provider with stores := provider.stores ++ [{ published := { value := account } }] } :=
    .aside rfl rfl rfl rfl
  exact opened.trans (.spawned _)

omit [AdapterBench Bench] in
theorem publishAccount_grows (store : Nat) (account : Account) :
    provider.Grows (provider.publishAccount store account) := by
  simp only [publishAccount]
  split <;> exact .aside rfl rfl rfl rfl

theorem Transition.ages (transition : Transition evolves before after) : before.Ages after := by
  cases transition with
  | request request => exact (Grows.spawned _).toAges
  | advance strand _ _ => exact (advance_ages strand).trans letGo_ages
  | wait later _ => exact .of_same rfl rfl rfl
  | react event goesOn => exact .of_same rfl rfl (Connection.react_cancelled goesOn)
  | onBench change _ => exact .of_same rfl rfl (Connection.deliver_cancelled _ _)
  | onHost host => exact .of_same rfl rfl rfl
  | subscribe wallet => exact (subscribe_edits wallet).grows.toAges
  | resetPermission => exact reset_edits.grows.toAges
  | startPump => exact startPump_grows.toAges
  | stopListening => exact (Edit.dismiss before).grows.toAges
  | watchAccounts account => exact (watchAccounts_grows account).toAges
  | publishAccount store account => exact (publishAccount_grows store account).toAges
  | closeStore store => exact .of_same rfl rfl rfl
  | cancel => exact (Edit.cancel before).grows.toAges
  | drop =>
      have released : before.Ages { before with held := false } := .of_same rfl rfl rfl
      exact released.trans letGo_ages

/-- Where a strand comes from that stands in line after a transition. -/
inductive Stands (before after : Provider Bench) (strand : Strand) : Prop where
  | stood : strand ∈ before.strands → Stands before after strand
  | idle : strand.call = none → Stands before after strand
  | stopped (former next : Strand) (work : Work) (call : Call) (milliseconds due : Nat) :
      former ∈ before.strands → before.canMove former = true →
      after = (before.advance former).letGo → before.work? former = some (work, next) →
      (before.perform work).2 = .waiting call milliseconds →
      strand = { next with call := some (call, due) } → Stands before after strand

theorem Grows.stands (grows : before.Grows after) {strand : Strand}
    (member : strand ∈ after.strands) : Stands before after strand := by
  rcases grows.mem_strands member with stood | idle
  · exact .stood stood
  · exact .idle idle

theorem advance_stands {former strand : Strand} (present : former ∈ before.strands)
    (ready : before.canMove former = true)
    (member : strand ∈ (before.advance former).letGo.strands) :
    Stands before (before.advance former).letGo strand := by
  rw [letGo_strands] at member
  cases takes : before.work? former with
  | none => exact .stood ((advance_of_idle takes).strands strand member)
  | some taken =>
      obtain ⟨work, next⟩ := taken
      rw [advance_of_work takes] at member
      rcases mem_proceed member with within | idle | ⟨call, milliseconds, waits, same⟩
      · rcases (perform_grows work).mem_strands within with stood | idle
        · exact .stood stood
        · exact .idle idle
      · exact .idle idle
      · exact .stopped former next work call milliseconds _ present ready rfl takes waits same

theorem Transition.stands (transition : Transition evolves before after) {strand : Strand}
    (member : strand ∈ after.strands) : Stands before after strand := by
  cases transition with
  | request request => exact (Grows.spawned _).stands member
  | advance former present ready => exact advance_stands present ready member
  | subscribe wallet => exact (subscribe_edits wallet).grows.stands member
  | startPump => exact startPump_grows.stands member
  | watchAccounts account => exact (watchAccounts_grows account).stands member
  | publishAccount store account => exact (publishAccount_grows store account).stands member
  | drop =>
      rw [Provider.drop, letGo_strands] at member
      exact .stood member
  | wait _ _ | react _ _ | onBench _ _ | onHost _ | resetPermission | stopListening
  | closeStore _ | cancel => exact .stood member

end Provider

end SignerLink
