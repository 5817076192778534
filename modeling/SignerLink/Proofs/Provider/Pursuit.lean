import SignerLink.Proofs.Connection.Failing
import SignerLink.Proofs.Provider.Unasked
/-!
What is done for an account selection. Selections are counted; whatever a turn leaves to be done
is for the selection that counts then, or goes on with what was done for an earlier one.
-/

namespace SignerLink

def Call.pursued? : Call → Option Nat
  | .accountCheck epoch _ | .attachCheck epoch _ _ | .search epoch _
  | .autoConnect epoch _ _ _ => some epoch
  | .attempt _ | .readiness _ | .disconnect _ | .operation _ | .permission _ _ _ | .host _ _
  | .joining _ _ => none

def Duty.isOffshoot : Duty → Bool
  | .retry _ _ _ | .listener _ | .forwarder _ => true
  | .caller _ | .pump | .watcher _ _ => false

def Duty.isWatcher : Duty → Bool
  | .watcher _ _ => true
  | .caller _ | .pump | .forwarder _ | .listener _ | .retry _ _ _ => false

theorem Duty.isWatcher_of_isOffshoot {duty : Duty} (kind : duty.isOffshoot = true) :
    duty.isWatcher = false := by
  cases duty with
  | watcher _ _ => cases kind
  | _ => rfl

def Duty.pursued? : Duty → Option Nat
  | .retry epoch _ _ => some epoch
  | .caller _ | .pump | .forwarder _ | .listener _ | .watcher _ _ => none

def Strand.pursued? (strand : Strand) : Option Nat :=
  match strand.call with
  | some (call, _) => call.pursued?
  | none => strand.duty.pursued?

theorem Strand.pursued?_waiting {strand : Strand} {call : Call} {due : Nat}
    (waits : strand.call = some (call, due)) : strand.pursued? = call.pursued? := by
  rw [pursued?, waits]

theorem Strand.pursued?_idle {strand : Strand} (idle : strand.call = none) :
    strand.pursued? = strand.duty.pursued? := by
  rw [pursued?, idle]

def Work.pursued? : Work → Option Nat
  | .resume (.autoConnect epoch _ _ _) => some epoch
  | .resume _ | .begin _ _ | .evaluate _ _ => none

theorem Work.attempt_of_pursued {work : Work} {epoch : Nat}
    (pursued : work.pursued? = some epoch) :
    ∃ account trigger call, work = .resume (.autoConnect epoch account trigger call) := by
  cases work with
  | resume call =>
      cases call with
      | autoConnect epoch account trigger call =>
          cases pursued
          exact ⟨account, trigger, call, rfl⟩
      | _ => cases pursued
  | begin _ _ | evaluate _ _ => cases pursued

namespace Provider

variable {Bench : Type}

def Step.pursued? : Step → Option Nat
  | .waiting call _ => call.pursued?
  | .finished _ => none

theorem Step.IsPlain.pursued?_none {step : Step} (plain : step.IsPlain) :
    step.pursued? = none := by
  cases step with
  | finished reply => rfl
  | waiting call milliseconds =>
      have kind := plain call milliseconds rfl
      cases call <;> first | rfl | cases kind

/-- A strand that a turn has started while this selection counts. -/
structure IsOffshoot (epoch : Nat) (strand : Strand) : Prop where
  idle : strand.call = none
  kind : strand.duty.isOffshoot = true
  pursued : ∀ other, strand.duty.pursued? = some other → other = epoch

structure AddsNoRetry (before after : Provider Bench) : Prop where
  epoch : after.tracking.epoch = before.tracking.epoch
  account : after.tracking.account = before.tracking.account
  stores : after.stores = before.stores
  strands : ∃ spawned, after.strands = before.strands ++ spawned ∧
    ∀ strand ∈ spawned, strand.call = none ∧ strand.duty.isOffshoot = true ∧
      strand.duty.pursued? = none

structure KeepsSelection (before after : Provider Bench) : Prop where
  epoch : after.tracking.epoch = before.tracking.epoch
  account : after.tracking.account = before.tracking.account
  stores : after.stores = before.stores
  strands : ∃ spawned, after.strands = before.strands ++ spawned ∧
    ∀ strand ∈ spawned, IsOffshoot before.tracking.epoch strand ∧
      (strand.duty.pursued? ≠ none → after.connection.session.token = none)

/-- Work that waits in the end for nothing but what it is to do for the selection that counts, or
for the attempt that it goes on with. Only a hardware account is checked. -/
structure PursuesCurrent (before : Provider Bench) (begun : Option Nat)
    (result : Provider Bench × Step) : Prop where
  keeps : before.KeepsSelection result.1
  pursued : ∀ epoch, result.2.pursued? = some epoch →
    epoch = before.tracking.epoch ∨ begun = some epoch
  hardware : ∀ epoch call milliseconds,
    result.2 = .waiting (.accountCheck epoch call) milliseconds → before.wallet?.isSome = true

variable {before middle after provider : Provider Bench} {connection : Connection Bench}
  {result : Provider Bench × Step} {begun : Option Nat}

namespace AddsNoRetry

theorem aside (tracking : after.tracking = before.tracking) (stores : after.stores = before.stores)
    (strands : after.strands = before.strands) : before.AddsNoRetry after where
  epoch := by rw [tracking]
  account := by rw [tracking]
  stores := stores
  strands := ⟨[], by simp [strands], by simp⟩

theorem refl (provider : Provider Bench) : provider.AddsNoRetry provider := aside rfl rfl rfl

theorem trans (first : before.AddsNoRetry middle) (rest : middle.AddsNoRetry after) :
    before.AddsNoRetry after where
  epoch := rest.epoch.trans first.epoch
  account := rest.account.trans first.account
  stores := rest.stores.trans first.stores
  strands := by
    obtain ⟨some, same, new⟩ := first.strands
    obtain ⟨more, later, newer⟩ := rest.strands
    refine ⟨some ++ more, by rw [later, same, List.append_assoc], ?_⟩
    intro strand member
    rcases List.mem_append.mp member with member | member
    · exact new strand member
    · exact newer strand member

theorem started {duty : Duty} (kind : duty.isOffshoot = true) (plain : duty.pursued? = none) :
    provider.AddsNoRetry (provider.spawn duty).1 where
  epoch := rfl
  account := rfl
  stores := rfl
  strands := by
    refine ⟨[{ id := provider.nextStrand, duty := duty }], rfl, ?_⟩
    intro strand member
    rw [List.mem_singleton.mp member]
    exact ⟨rfl, kind, plain⟩

theorem through (connection : Connection Bench) :
    provider.AddsNoRetry (provider.setConnection connection) := aside rfl rfl rfl

theorem asked (host : MemoryHost) : provider.AddsNoRetry (provider.setHost host) :=
  aside rfl rfl rfl

theorem permitted (permission : PermissionGate) :
    provider.AddsNoRetry (provider.setPermission permission) := aside rfl rfl rfl

theorem counted {tracking : Tracking} (epoch : tracking.epoch = provider.tracking.epoch)
    (account : tracking.account = provider.tracking.account) :
    provider.AddsNoRetry (provider.setTracking tracking) where
  epoch := epoch
  account := account
  stores := rfl
  strands := ⟨[], (List.append_nil _).symm, by simp⟩

theorem before_keepsSelection (first : before.AddsNoRetry middle)
    (rest : middle.KeepsSelection after) : before.KeepsSelection after where
  epoch := rest.epoch.trans first.epoch
  account := rest.account.trans first.account
  stores := rest.stores.trans first.stores
  strands := by
    obtain ⟨some, same, new⟩ := first.strands
    obtain ⟨more, later, newer⟩ := rest.strands
    refine ⟨some ++ more, by rw [later, same, List.append_assoc], ?_⟩
    intro strand member
    rcases List.mem_append.mp member with member | member
    · obtain ⟨idle, kind, plain⟩ := new strand member
      refine ⟨⟨idle, kind, fun epoch pursued => ?_⟩, absurd plain⟩
      rw [plain] at pursued
      cases pursued
    · exact first.epoch ▸ newer strand member

end AddsNoRetry

namespace KeepsSelection

theorem refl (provider : Provider Bench) : provider.KeepsSelection provider where
  epoch := rfl
  account := rfl
  stores := rfl
  strands := ⟨[], (List.append_nil _).symm, by simp⟩

theorem retried {epoch : Nat} (trigger : Trigger) (due : Nat)
    (current : provider.tracking.epoch = epoch)
    (released : provider.connection.session.token = none) :
    provider.KeepsSelection (provider.spawn (.retry epoch trigger due)).1 where
  epoch := rfl
  account := rfl
  stores := rfl
  strands := by
    refine ⟨[{ id := provider.nextStrand, duty := .retry epoch trigger due }], rfl, ?_⟩
    intro strand member
    rw [List.mem_singleton.mp member]
    refine ⟨⟨rfl, rfl, fun other same => ?_⟩, fun _ => released⟩
    cases same
    exact current.symm

theorem mem_strands (keeps : before.KeepsSelection after) {strand : Strand}
    (member : strand ∈ after.strands) :
    strand ∈ before.strands ∨ IsOffshoot before.tracking.epoch strand ∧
      (strand.duty.pursued? ≠ none → after.connection.session.token = none) := by
  obtain ⟨spawned, same, new⟩ := keeps.strands
  rw [same] at member
  rcases List.mem_append.mp member with old | fresh
  · exact .inl old
  · exact .inr (new strand fresh)

theorem of_mem (keeps : before.KeepsSelection after) {strand : Strand}
    (member : strand ∈ before.strands) : strand ∈ after.strands := by
  obtain ⟨spawned, same, _⟩ := keeps.strands
  rw [same]
  exact List.mem_append_left _ member

end KeepsSelection

namespace PursuesCurrent

theorem silent (keeps : before.KeepsSelection result.1) (nothing : result.2.pursued? = none) :
    before.PursuesCurrent begun result := by
  refine ⟨keeps, ?_, ?_⟩
  · intro epoch found
    rw [nothing] at found
    cases found
  · intro epoch call milliseconds waits
    rw [waits] at nothing
    cases nothing

theorem finished {reply : Reply} (adds : before.AddsNoRetry after) :
    before.PursuesCurrent begun (after, .finished reply) :=
  silent (adds.before_keepsSelection (.refl _)) rfl

theorem later (first : before.AddsNoRetry middle) (rest : middle.PursuesCurrent begun result) :
    before.PursuesCurrent begun result where
  keeps := first.before_keepsSelection rest.keeps
  pursued epoch found := first.epoch ▸ rest.pursued epoch found
  hardware epoch call milliseconds waits := by
    have matched := rest.hardware epoch call milliseconds waits
    rwa [wallet?, first.account] at matched

theorem ite {condition : Prop} [Decidable condition] {yes no : Provider Bench × Step}
    (first : before.PursuesCurrent begun yes) (second : before.PursuesCurrent begun no) :
    before.PursuesCurrent begun (if condition then yes else no) := by
  split
  · exact first
  · exact second

theorem of_current {epoch : Nat} (pursuit : before.PursuesCurrent (some epoch) result)
    (current : before.tracking.epoch = epoch) : before.PursuesCurrent begun result where
  keeps := pursuit.keeps
  pursued other found := by
    rcases pursuit.pursued other found with same | same
    · exact .inl same
    · cases same
      exact .inl current.symm
  hardware := pursuit.hardware

end PursuesCurrent

variable [AdapterBench Bench]

theorem Edit.addsNoRetry {kind : EditKind} (apart : kind ≠ .retry) (edit : Edit kind before after) :
    before.AddsNoRetry after := by
  cases edit with
  | putOff _ _ _ _ => exact absurd rfl apart
  | forward _ _ | listen _ _ => exact .started rfl rfl
  | record _ _ | dismiss _ | count _ _ _ => exact .counted rfl rfl
  | ask _ _ _ | subscribe _ _ | permit _ _ _ _ | begin _ _ | resume _ _ | react _ _ _ | cancel _
  | tearDown _ _ => exact .aside rfl rfl rfl

theorem Edits.addsNoRetry {kinds : List EditKind} (edits : before.Edits kinds after)
    (apart : .retry ∉ kinds) : before.AddsNoRetry after :=
  edits.keeps AddsNoRetry .refl .trans fun _ member =>
    Edit.addsNoRetry fun same => apart (same ▸ member)

/-! Work that has nothing to do with account selections. -/

def passing : List EditKind := [.host, .request, .permission, .reaction, .dismissal, .ending]

structure PursuesNothing (before : Provider Bench) (result : Provider Bench × Step) : Prop where
  edits : before.Edits passing result.1
  silent : result.2.pursued? = none

theorem PursuesNothing.finished (reply : Reply) :
    provider.PursuesNothing (provider, .finished reply) := ⟨.refl, rfl⟩

theorem PursuesNothing.pursuesCurrent (passes : before.PursuesNothing result) :
    before.PursuesCurrent begun result :=
  .silent ((passes.edits.addsNoRetry (by decide)).before_keepsSelection (.refl _)) passes.silent

theorem Errand.pursuesNothing {taken : Multiset ConnectionCall}
    (errand : Errand provider taken result) : provider.PursuesNothing result :=
  ⟨errand.edits.mono (by decide), errand.plain.pursued?_none⟩

/-! Connecting without being asked. -/

section Unasked

omit [AdapterBench Bench]

theorem settle_keepsSelection (epoch : Nat) (account : Account) (trigger : Trigger)
    {outcome : ConnectOutcome}
    (released : ∀ error, outcome = .failed error → provider.connection.session.token = none) :
    provider.KeepsSelection (provider.settle epoch account trigger outcome) := by
  simp only [settle]
  split
  next => exact .refl provider
  next current =>
    split
    next =>
      have completed : provider.AddsNoRetry (provider.setTracking
          { provider.tracking with completedFor := some account, retries := 0 }) :=
        .counted rfl rfl
      exact completed.before_keepsSelection (.refl _)
    next error =>
      split
      next => exact .refl provider
      next =>
        have counted : provider.AddsNoRetry (provider.setTracking
            { provider.tracking with retries := provider.tracking.retries + 1 }) :=
          .counted rfl rfl
        exact counted.before_keepsSelection
          (.retried trigger _ (not_not.mp current) (released error rfl))
    next => exact .refl provider
    next => exact .refl provider

theorem followAttempt_pursuesCurrent (epoch : Nat) (account : Account) (trigger : Trigger)
    {token : Token} {progress : Connection.AttemptProgress}
    (pursues : Connection.Pursues token (provider.connection, progress)) :
    provider.PursuesCurrent (some epoch)
      (provider.followAttempt epoch account trigger progress) := by
  cases progress with
  | waiting call milliseconds =>
      exact ⟨.refl provider, fun _ same => .inr same, fun _ _ _ same => by cases same⟩
  | finished outcome =>
      refine .silent (settle_keepsSelection epoch account trigger fun error failed => ?_) rfl
      exact pursues.failed error (by rw [failed])

end Unasked

theorem autoConnect_pursuesCurrent (epoch : Nat) (trigger : Trigger) (deviceId : String) :
    provider.PursuesCurrent begun (provider.autoConnect epoch trigger deviceId) := by
  simp only [autoConnect]
  split
  next => exact .finished (.refl provider)
  next wallet account eligible =>
    have current := (isAllowed_of_eligible eligible deviceId).epoch
    obtain ⟨token, pursues⟩ :=
      provider.connection.connect_pursues wallet (.device deviceId)
    generalize provider.connection.connect wallet (.device deviceId) = result at pursues ⊢
    obtain ⟨connection, progress⟩ := result
    have followed : (provider.setConnection connection).PursuesCurrent (some epoch)
        ((provider.setConnection connection).followAttempt epoch account trigger progress) :=
      followAttempt_pursuesCurrent epoch account trigger pursues
    exact .later (.through connection) (followed.of_current current)

theorem searched_pursuesCurrent (epoch : Nat) (found : DeviceSearch) :
    provider.PursuesCurrent begun (provider.searched epoch found) := by
  simp only [searched]
  split
  next =>
    split
    next => exact autoConnect_pursuesCurrent _ _ _
    next => exact .finished (.refl provider)
  next => exact .finished (.refl provider)

theorem evaluate_of_ineligible {epoch : Nat} {trigger : Trigger}
    (ineligible : provider.eligible? epoch trigger = none) :
    provider.evaluate epoch trigger = (provider, .finished .done) := by
  simp only [evaluate, ineligible]

theorem evaluate_pursuesCurrent (epoch : Nat) (trigger : Trigger) :
    provider.PursuesCurrent begun (provider.evaluate epoch trigger) := by
  simp only [evaluate]
  split
  next => exact .finished (.refl provider)
  next wallet account eligible =>
    have current := (isAllowed_of_eligible eligible "").epoch
    split
    next => exact autoConnect_pursuesCurrent _ _ _
    next =>
      refine .ite (.later (.asked _) (searched_pursuesCurrent _ _))
        ⟨AddsNoRetry.before_keepsSelection (.asked _) (.refl _), ?_, ?_⟩
      · intro other same
        cases same
        exact .inl current.symm
      · intro _ _ _ same
        cases same

theorem accountChecked_pursuesCurrent (epoch : Nat) (call : PermissionCall) :
    provider.PursuesCurrent begun (provider.accountChecked epoch call) :=
  .ite (.later (.permitted _) (evaluate_pursuesCurrent _ _)) (.finished (.permitted _))

theorem attachChecked_pursuesCurrent (epoch : Nat) (deviceId : String) (call : PermissionCall) :
    provider.PursuesCurrent begun (provider.attachChecked epoch deviceId call) := by
  have restarted : provider.AddsNoRetry
      ((provider.setPermission (provider.permission.commit call)).setTracking
        { provider.tracking with retries := 0 }) :=
    (AddsNoRetry.permitted _).trans (.counted rfl rfl)
  exact .ite (.later restarted (evaluate_pursuesCurrent _ _)) (.finished (.permitted _))

def selecting (provider : Provider Bench) (account : Account) : Provider Bench :=
  if provider.isCancelled || provider.tracking.account == account then provider
  else provider.track account

theorem selectAccount_pursuesCurrent (account : Account) :
    (provider.selecting account).PursuesCurrent begun (provider.selectAccount account) := by
  simp only [selectAccount, selecting]
  split
  next => exact .finished (.refl provider)
  next =>
    split
    next => exact .finished (release_edits.addsNoRetry (by decide))
    next wallet named =>
      have turned : (provider.track account).AddsNoRetry
          (((provider.track account).turnTo wallet).beginCheck wallet).1 :=
        ((turnTo_edits wallet).addsNoRetry (by decide)).trans
          ((beginCheck_edits wallet).addsNoRetry (by decide))
      refine .ite (.later turned (accountChecked_pursuesCurrent _ _))
        ⟨turned.before_keepsSelection (.refl _), ?_, ?_⟩
      · intro other same
        cases same
        exact .inl rfl
      · intro _ _ _ _
        have matched : (provider.track account).wallet? = some wallet := named
        rw [matched]
        rfl

theorem detached_pursuesNothing (device : Device) :
    provider.PursuesNothing (provider.plugEvent (.detached device)) := by
  refine ⟨(detached_edits device).mono (by decide), ?_⟩
  simp only [plugEvent]
  split
  next => rfl
  next =>
    split
    next => rfl
    next => split <;> rfl

theorem plugEvent_pursuesCurrent (event : PlugEvent) :
    provider.PursuesCurrent begun (provider.plugEvent event) := by
  cases event with
  | detached device => exact (detached_pursuesNothing device).pursuesCurrent
  | attached device =>
      have nothing : provider.PursuesCurrent begun (provider, .finished .done) :=
        .finished (.refl provider)
      refine .ite nothing ?_
      split
      next => exact nothing
      next wallet _ =>
        have asked : provider.AddsNoRetry (provider.beginCheck wallet).1 :=
          (beginCheck_edits wallet).addsNoRetry (by decide)
        refine .ite nothing (.ite (.later asked (attachChecked_pursuesCurrent _ _ _)) ?_)
        refine ⟨asked.before_keepsSelection (.refl _), ?_, ?_⟩
        · intro other same
          cases same
          exact .inl rfl
        · intro _ _ _ same
          cases same

/-! Requests and calls. -/

theorem begin_pursuesNothing {request : Request}
    (notSelection : ∀ account, request ≠ .selectAccount account)
    (notEvent : ∀ event, request ≠ .plugEvent event) :
    provider.PursuesNothing (provider.begin request) := by
  cases request with
  | selectAccount account => exact absurd rfl (notSelection account)
  | plugEvent event => exact absurd rfl (notEvent event)
  | shutdown =>
      refine ⟨shutdown_edits.mono (by decide), ?_⟩
      simp only [begin, shutdown]
      split
      next => rfl
      next => exact (join_errand _ _).plain.pursued?_none
  | checkPermission wallet =>
      simp only [begin]
      split
      next => exact .finished _
      next wallet _ =>
        refine ⟨(checkPermission_edits wallet).mono (by decide), ?_⟩
        simp only [checkPermission]
        split <;> rfl
  | requestPermission wallet =>
      simp only [begin]
      split
      next => exact .finished _
      next wallet _ =>
        refine ⟨(requestPermission_edits wallet).mono (by decide), ?_⟩
        simp only [requestPermission]
        split <;> rfl
  | _ => exact (begin_errand rfl).pursuesNothing

theorem begin_pursuesCurrent {request : Request}
    (other : ∀ account, request ≠ .selectAccount account) :
    provider.PursuesCurrent begun (provider.begin request) := by
  cases request with
  | selectAccount account => exact absurd rfl (other account)
  | plugEvent event => exact plugEvent_pursuesCurrent event
  | _ => exact (begin_pursuesNothing (by simp) (by simp)).pursuesCurrent

theorem resume_pursuesNothing {call : Call} (plain : call.pursued? = none) :
    provider.PursuesNothing (provider.resume call) := by
  cases call with
  | permission call reply selection =>
      exact ⟨(permissionAnswered_edits call reply selection).mono (by decide), rfl⟩
  | accountCheck _ _ | attachCheck _ _ _ | search _ _ | autoConnect _ _ _ _ => cases plain
  | _ => exact (resume_errand rfl).pursuesNothing

theorem resume_pursuesCurrent (call : Call) :
    provider.PursuesCurrent (Work.resume call).pursued? (provider.resume call) := by
  cases call with
  | autoConnect epoch account trigger call =>
      exact .later (.through _)
        (followAttempt_pursuesCurrent epoch account trigger (Connection.resumeAttempt_pursues call))
  | accountCheck epoch call => exact accountChecked_pursuesCurrent epoch call
  | attachCheck epoch deviceId call => exact attachChecked_pursuesCurrent epoch deviceId call
  | search epoch found => exact searched_pursuesCurrent epoch found
  | _ => exact (resume_pursuesNothing rfl).pursuesCurrent

def turned (provider : Provider Bench) : Work → Provider Bench
  | .begin _ (.selectAccount account) => provider.selecting account
  | .begin _ _ | .resume _ | .evaluate _ _ => provider

theorem perform_pursuesCurrent (work : Work) :
    (provider.turned work).PursuesCurrent work.pursued? (provider.perform work) := by
  cases work with
  | begin host request =>
      have asked : provider.AddsNoRetry (provider.setHost host) := .asked host
      have plain (other : ∀ account, request ≠ .selectAccount account) :
          provider.PursuesCurrent none (provider.perform (.begin host request)) :=
        .later asked (begin_pursuesCurrent other)
      cases request with
      | selectAccount account =>
          have selected : (provider.setHost host).selecting account =
              (provider.selecting account).setHost host := by
            by_cases stays : (provider.isCancelled || provider.tracking.account == account) = true
            · simp only [selecting, stays, if_true]
              exact if_pos stays
            · simp only [selecting, stays, Bool.false_eq_true, if_false]
              exact if_neg stays
          exact .later (.asked host) (selected ▸ selectAccount_pursuesCurrent account)
      | _ => exact plain (by simp)
  | resume call => exact resume_pursuesCurrent call
  | evaluate epoch trigger => exact evaluate_pursuesCurrent epoch trigger

/-! Turns. -/

omit [AdapterBench Bench] in
theorem turned_strands (work : Work) : (provider.turned work).strands = provider.strands := by
  simp only [turned, selecting]
  split
  · split <;> rfl
  all_goals rfl

omit [AdapterBench Bench] in
theorem turned_epoch_le (work : Work) :
    provider.tracking.epoch ≤ (provider.turned work).tracking.epoch := by
  simp only [turned, selecting]
  split
  · split
    · exact Nat.le_refl _
    · exact Nat.le_succ _
  all_goals exact Nat.le_refl _

inductive InLineAfter (before : Provider Bench) (work : Work) (next strand : Strand) : Prop where
  | bystander : strand ∈ before.strands → strand.id ≠ next.id → InLineAfter before work next strand
  | offshoot : IsOffshoot (before.turned work).tracking.epoch strand →
      (strand.duty.pursued? ≠ none → (before.perform work).1.connection.session.token = none) →
      InLineAfter before work next strand
  | rests : next.duty.pursued? = none → strand = { next with call := none } →
      InLineAfter before work next strand
  | waits (call : Call) (milliseconds due : Nat) :
      (before.perform work).2 = .waiting call milliseconds →
      strand = { next with call := some (call, due) } → InLineAfter before work next strand

section InLineAfter

variable {former next strand : Strand} {work : Work}

omit [AdapterBench Bench] in
theorem of_mem_put {other : Strand} (member : other ∈ (provider.put strand).strands) :
    other ∈ provider.strands ∧ other.id ≠ strand.id ∨ other = strand := by
  obtain ⟨original, present, rfl⟩ := List.mem_map.mp member
  split
  next => exact .inr rfl
  next different => exact .inl ⟨present, by simpa using different⟩

omit [AdapterBench Bench] in
theorem mem_put_of_ne {other : Strand} (member : other ∈ provider.strands)
    (different : other.id ≠ strand.id) : other ∈ (provider.put strand).strands :=
  List.mem_map.mpr ⟨other, member, by simp [different]⟩

omit [AdapterBench Bench] in
theorem mem_remove_iff {other : Strand} {id : StrandId} :
    other ∈ (provider.remove id).strands ↔ other ∈ provider.strands ∧ other.id ≠ id := by
  simp [remove]

omit [AdapterBench Bench] in
theorem mem_proceed_of_ne {other : Strand} (step : Step) (member : other ∈ provider.strands)
    (different : other.id ≠ strand.id) : other ∈ (provider.proceed strand step).strands := by
  simp only [proceed]
  split
  next => exact mem_put_of_ne member different
  next =>
    split
    next => exact mem_remove_iff.mpr ⟨member, different⟩
    next => exact mem_remove_iff.mpr ⟨member, different⟩
    next => exact mem_put_of_ne member different

omit [AdapterBench Bench] in
theorem of_mem_proceed {step : Step} (member : strand ∈ (provider.proceed next step).strands) :
    strand ∈ provider.strands ∧ strand.id ≠ next.id ∨
      next.duty.pursued? = none ∧ strand = { next with call := none } ∨
      ∃ call milliseconds due, step = .waiting call milliseconds ∧
        strand = { next with call := some (call, due) } := by
  cases step with
  | waiting call milliseconds =>
      rcases of_mem_put member with stands | same
      · exact .inl stands
      · exact .inr (.inr ⟨call, milliseconds, _, rfl, same⟩)
  | finished reply =>
      simp only [proceed] at member
      split at member
      next => exact .inl (mem_remove_iff.mp member)
      next => exact .inl (mem_remove_iff.mp member)
      next other =>
        rcases of_mem_put member with stands | same
        · exact .inl stands
        · refine .inr (.inl ⟨?_, same⟩)
          cases duty : next.duty with
          | retry epoch trigger due => exact absurd duty (other epoch trigger due)
          | _ => rfl

theorem advance_inLineAfter (takes : before.work? former = some (work, next))
    (member : strand ∈ (before.advance former).strands) : InLineAfter before work next strand := by
  rw [advance_of_work takes] at member
  rcases of_mem_proceed member with
    ⟨stands, other⟩ | ⟨plain, same⟩ | ⟨call, milliseconds, due, ends, same⟩
  · rcases (before.perform_pursuesCurrent work).keeps.mem_strands stands with
      stood | ⟨offshoot, released⟩
    · rw [turned_strands] at stood
      exact .bystander stood other
    · exact .offshoot offshoot released
  · exact .rests plain same
  · exact .waits call milliseconds due ends same

end InLineAfter

/-! Transitions. -/

structure Outside (before after : Provider Bench) : Prop where
  epoch : after.tracking.epoch = before.tracking.epoch
  account : after.tracking.account = before.tracking.account
  stores : before.stores.length ≤ after.stores.length
  strands : ∃ spawned, after.strands = before.strands ++ spawned ∧
    ∀ strand ∈ spawned, strand.call = none ∧ strand.duty.pursued? = none ∧
      (strand.duty.isWatcher = true → before.stores.length < after.stores.length)

namespace Outside

omit [AdapterBench Bench]

theorem of_same (tracking : after.tracking = before.tracking)
    (strands : after.strands = before.strands)
    (stores : after.stores.length = before.stores.length) : before.Outside after where
  epoch := by rw [tracking]
  account := by rw [tracking]
  stores := stores.ge
  strands := ⟨[], by simp [strands], by simp⟩

theorem refl (provider : Provider Bench) : provider.Outside provider := of_same rfl rfl rfl

theorem trans (first : before.Outside middle) (rest : middle.Outside after) :
    before.Outside after where
  epoch := rest.epoch.trans first.epoch
  account := rest.account.trans first.account
  stores := first.stores.trans rest.stores
  strands := by
    obtain ⟨some, same, new⟩ := first.strands
    obtain ⟨more, later, newer⟩ := rest.strands
    refine ⟨some ++ more, by rw [later, same, List.append_assoc], ?_⟩
    intro strand member
    rcases List.mem_append.mp member with member | member
    · obtain ⟨idle, plain, opened⟩ := new strand member
      exact ⟨idle, plain, fun watches => (opened watches).trans_le rest.stores⟩
    · obtain ⟨idle, plain, opened⟩ := newer strand member
      exact ⟨idle, plain, fun watches => first.stores.trans_lt (opened watches)⟩

theorem spawned {duty : Duty} (plain : duty.pursued? = none) (other : duty.isWatcher = false) :
    provider.Outside (provider.spawn duty).1 where
  epoch := rfl
  account := rfl
  stores := Nat.le_refl _
  strands := by
    refine ⟨[{ id := provider.nextStrand, duty := duty }], rfl, ?_⟩
    intro strand member
    rw [List.mem_singleton.mp member]
    refine ⟨rfl, plain, fun watches => ?_⟩
    rw [other] at watches
    cases watches

theorem mem_strands (outside : before.Outside after) {strand : Strand}
    (member : strand ∈ after.strands) :
    strand ∈ before.strands ∨ strand.call = none ∧ strand.duty.pursued? = none ∧
      (strand.duty.isWatcher = true → before.stores.length < after.stores.length) := by
  obtain ⟨spawned, same, new⟩ := outside.strands
  rw [same] at member
  rcases List.mem_append.mp member with old | fresh
  · exact .inl old
  · exact .inr (new strand fresh)

theorem stood (outside : before.Outside after) {strand : Strand}
    (member : strand ∈ after.strands) : strand ∈ before.strands ∨ strand.pursued? = none := by
  refine (outside.mem_strands member).imp_right fun ⟨idle, plain, _⟩ => ?_
  rw [Strand.pursued?_idle idle, plain]

theorem of_addsNoRetry (adds : before.AddsNoRetry after) : before.Outside after where
  epoch := adds.epoch
  account := adds.account
  stores := (congrArg List.length adds.stores).ge
  strands := by
    obtain ⟨spawned, same, new⟩ := adds.strands
    refine ⟨spawned, same, fun strand member => ?_⟩
    obtain ⟨idle, kind, plain⟩ := new strand member
    refine ⟨idle, plain, fun watches => ?_⟩
    rw [Duty.isWatcher_of_isOffshoot kind] at watches
    cases watches

end Outside

theorem letGo_stores : provider.letGo.stores = provider.stores :=
  (letGo_edits.addsNoRetry (by decide)).stores

theorem letGo_outside : provider.Outside provider.letGo :=
  .of_addsNoRetry (letGo_edits.addsNoRetry (by decide))

variable {evolves : Bench → Bench → Prop}

theorem Transition.outside (transition : Transition evolves before after) :
    (∃ strand ∈ before.strands, before.canMove strand = true ∧
      after = (before.advance strand).letGo) ∨ before.Outside after := by
  cases transition with
  | advance strand member ready => exact .inl ⟨strand, member, ready, rfl⟩
  | request request => exact .inr (.spawned rfl rfl)
  | wait _ _ | react _ _ | onBench _ _ | onHost _ | resetPermission | cancel =>
      exact .inr (.of_same rfl rfl rfl)
  | stopListening => exact .inr ⟨rfl, rfl, Nat.le_refl _, [], (List.append_nil _).symm, by simp⟩
  | closeStore store => exact .inr (.of_same rfl rfl (List.length_modify _ _ _))
  | subscribe wallet =>
      exact .inr (.of_addsNoRetry ((subscribe_edits wallet).addsNoRetry (by decide)))
  | startPump =>
      have started : before.Outside { before with pumpStarted := true } := .of_same rfl rfl rfl
      simp only [Provider.startPump]
      split
      · exact .inr (.refl before)
      · exact .inr (started.trans (.spawned rfl rfl))
  | watchAccounts account =>
      refine .inr ⟨rfl, rfl, by simp [Provider.watchAccounts, Provider.spawn],
        [{ id := before.nextStrand, duty := .watcher before.stores.length none }], rfl, ?_⟩
      intro strand member
      rw [List.mem_singleton.mp member]
      exact ⟨rfl, rfl, fun _ => by simp [Provider.watchAccounts, Provider.spawn]⟩
  | publishAccount store account =>
      simp only [Provider.publishAccount]
      split
      · exact .inr (.of_same rfl rfl (List.length_modify _ _ _))
      · exact .inr (.refl before)
  | drop =>
      have released : before.Outside { before with held := false } := .of_same rfl rfl rfl
      exact .inr (released.trans letGo_outside)

/-- No strand pursues a selection that is still to come, and a permission check for the selection
that counts is made for a hardware account. -/
structure IsTimely (provider : Provider Bench) : Prop where
  pursued : ∀ strand ∈ provider.strands, ∀ epoch, strand.pursued? = some epoch →
    epoch ≤ provider.tracking.epoch
  hardware : ∀ strand ∈ provider.strands, ∀ epoch call due,
    strand.call = some (.accountCheck epoch call, due) → provider.tracking.epoch = epoch →
      provider.wallet?.isSome = true

namespace IsTimely

omit [AdapterBench Bench] in
theorem of_none (none : provider.strands = []) : provider.IsTimely := by
  constructor <;> simp [none]

omit [AdapterBench Bench] in
theorem of_mem (timely : before.IsTimely) (epoch : after.tracking.epoch = before.tracking.epoch)
    (account : after.tracking.account = before.tracking.account)
    (stands : ∀ strand ∈ after.strands, strand ∈ before.strands ∨ strand.pursued? = none) :
    after.IsTimely where
  pursued strand member selection pursued := by
    rw [epoch]
    rcases stands strand member with stood | plain
    · exact timely.pursued strand stood selection pursued
    · rw [plain] at pursued
      cases pursued
  hardware strand member selection call due waits current := by
    rw [wallet?, account]
    rcases stands strand member with stood | plain
    · exact timely.hardware strand stood selection call due waits (epoch ▸ current)
    · cases (Strand.pursued?_waiting waits).symm.trans plain

omit [AdapterBench Bench] in
theorem outside (timely : before.IsTimely) (outside : before.Outside after) : after.IsTimely := by
  exact timely.of_mem outside.epoch outside.account fun strand => outside.stood

theorem advance_pursued {former : Strand} (timely : before.IsTimely)
    (present : former ∈ before.strands) {work : Work} {next strand : Strand}
    (takes : before.work? former = some (work, next))
    (member : strand ∈ (before.advance former).strands) {epoch : Nat}
    (pursued : strand.pursued? = some epoch) :
    epoch ≤ (before.turned work).tracking.epoch := by
  have later : before.tracking.epoch ≤ (before.turned work).tracking.epoch :=
    turned_epoch_le work
  cases advance_inLineAfter takes member with
  | bystander stood _ => exact (timely.pursued strand stood epoch pursued).trans later
  | offshoot offshoot _ =>
      rw [Strand.pursued?_idle offshoot.idle] at pursued
      exact (offshoot.pursued epoch pursued).le
  | rests plain same =>
      rw [same, Strand.pursued?, plain] at pursued
      cases pursued
  | waits call milliseconds due ends same =>
      have waits : (before.perform work).2.pursued? = some epoch := by
        rw [ends]
        rw [same] at pursued
        exact pursued
      rcases (before.perform_pursuesCurrent work).pursued epoch waits with current | begun
      · exact current.le
      · obtain ⟨account, trigger, call, rfl⟩ := Work.attempt_of_pursued begun
        obtain ⟨due, waited⟩ := call_of_resume takes
        exact (timely.pursued former present epoch (Strand.pursued?_waiting waited)).trans later

theorem advance {former : Strand} (timely : before.IsTimely) (present : former ∈ before.strands) :
    (before.advance former).IsTimely := by
  cases takes : before.work? former with
  | none =>
      have idles := advance_of_idle takes
      refine timely.of_mem (by rw [idles.tracking]) (by rw [idles.tracking]) ?_
      exact fun strand member => .inl (idles.strands strand member)
  | some taken =>
      obtain ⟨work, next⟩ := taken
      have pursuit := before.perform_pursuesCurrent work
      have tracked : (before.advance former).tracking = (before.perform work).1.tracking := by
        rw [advance_of_work takes, proceed_tracking]
      constructor
      · intro strand member epoch pursued
        rw [tracked, pursuit.keeps.epoch]
        exact timely.advance_pursued present takes member pursued
      · intro strand member epoch call due waits current
        cases advance_inLineAfter takes member with
        | bystander stood _ =>
            -- The selection that counts is the one that counted before.
            have ages := before.advance_ages former
            have earlier := timely.pursued strand stood epoch (Strand.pursued?_waiting waits)
            have same : before.tracking.epoch = epoch :=
              Nat.le_antisymm (current ▸ ages.epoch) earlier
            rw [wallet?, ages.account (current.trans same.symm)]
            exact timely.hardware strand stood epoch call due waits same
        | offshoot offshoot _ =>
            rw [offshoot.idle] at waits
            cases waits
        | rests plain same =>
            rw [same] at waits
            cases waits
        | waits waiting milliseconds due ends same =>
            rw [same] at waits
            cases waits
            rw [wallet?, tracked, pursuit.keeps.account]
            exact pursuit.hardware epoch call milliseconds ends

end IsTimely

theorem Transition.isTimely (transition : Transition evolves before after)
    (timely : before.IsTimely) : after.IsTimely := by
  rcases transition.outside with ⟨strand, member, _, rfl⟩ | outside
  · exact (timely.advance member).outside letGo_outside
  · exact timely.outside outside

theorem Reachable.isTimely (reachable : provider.Reachable evolves) : provider.IsTimely := by
  obtain ⟨first, new, transitions⟩ := reachable
  induction transitions with
  | refl => exact .of_none new.strands
  | tail _ transition ih => exact transition.isTimely ih

end Provider

end SignerLink
