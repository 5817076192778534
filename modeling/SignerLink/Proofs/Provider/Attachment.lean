import SignerLink.Proofs.Provider.AccountCheck
import SignerLink.Proofs.Transport.Agreement
/-!
Attached devices. Before the provider connects to one it checks that its wallet may be used, and the
check only asks whether some device of the wallet is paired. The one that was attached may be
another.
-/

namespace SignerLink

namespace MemoryHost

/-- An enumeration for the wallet brings a paired device that its filters accept. -/
def Offers (host : MemoryHost) (wallet : Wallet) : Prop :=
  ∃ channel, wallet.reach host.isAvailable = .ok channel ∧ host.enumerationFailure = none ∧
    ∃ paired ∈ host.pairedOn channel, wallet.accepts paired = true

theorem inquire_granted_iff {host : MemoryHost} {wallet : Wallet} :
    (host.inquire wallet).2.answer.permission wallet = .granted ↔ host.Offers wallet := by
  simp only [inquire, Offers]
  cases reached : wallet.reach host.isAvailable with
  | error error => simp [Inquiry.permission]
  | ok channel =>
      have available : host.isAvailable channel = true :=
        (Wallet.reach_eq_ok_iff.mp reached).opened
      simp only [enumerate, available, if_true, Awaited.map]
      cases host.enumerationFailure with
      | some message => simp [Inquiry.permission]
      | none => simp [Inquiry.permission]

end MemoryHost

namespace Provider

variable {Bench : Type} [AdapterBench Bench]

/-- The provider asks whether the wallet may be used when a device is attached. -/
structure ChecksAttached (provider : Provider Bench) (wallet : Wallet) : Prop where
  live : provider.isCancelled = false
  named : provider.wallet? = some wallet
  free : provider.connection.isBusy = false

def attachCall (provider : Provider Bench) (wallet : Wallet) : PermissionCall :=
  (provider.beginCheck wallet).2.1

/-- The turn of the strand brings the answer of the check that was made when the device was
attached: in this very turn, or in an earlier one of the strand, since when it has waited for the
answer. The event was taken up by the first provider, and the second one has the answer. -/
inductive AttachChecks (evolves : Bench → Bench → Prop) (provider : Provider Bench)
    (strand : Strand) : Provider Bench → Device → Wallet → Provider Bench → Prop where
  | now (host : MemoryHost) (device : Device) (wallet : Wallet) (next : Strand) :
      provider.work? strand = some (.begin host (.plugEvent (.attached device)), next) →
      (provider.setHost host).ChecksAttached wallet →
      ((provider.setHost host).beginCheck wallet).2.2 = 0 →
      AttachChecks evolves provider strand (provider.setHost host) device wallet
        ((provider.setHost host).beginCheck wallet).1
  | before (asked : Provider Bench) (host : MemoryHost) (device : Device) (wallet : Wallet)
      (former next : Strand) (due : Nat) :
      asked.Reachable evolves → former ∈ asked.strands → former.id = strand.id →
      asked.work? former = some (.begin host (.plugEvent (.attached device)), next) →
      (asked.setHost host).ChecksAttached wallet →
      strand.call = some (.attachCheck asked.tracking.epoch device.id
        ((asked.setHost host).attachCall wallet), due) →
      strand ∈ (asked.advance former).letGo.strands →
      Relation.ReflTransGen (Waits evolves strand) (asked.advance former).letGo provider →
      AttachChecks evolves provider strand (asked.setHost host) device wallet provider

/-- Nothing but the wallet's permission is missing to connect, and that was not lost since. -/
structure IsOpen (provider : Provider Bench) (epoch : Nat) (call : PermissionCall) : Prop where
  enabled : provider.policy.enabled = true
  current : provider.isCurrent epoch = true
  free : provider.connection.isBusy = false
  granted : (provider.permission.commit call).state = .granted

variable {evolves : Bench → Bench → Prop} {provider start answered : Provider Bench}
  {strand : Strand} {work : Work} {device : Device} {wallet : Wallet} {epoch : Nat}
  {call : PermissionCall}

/-! Who waits for the answer. -/

theorem selectAccount_waits {account : Account} {waiting : Call} {milliseconds : Nat}
    (waits : (provider.selectAccount account).2 = .waiting waiting milliseconds)
    (asks : waiting.permission? = some call) :
    waiting = .accountCheck (provider.tracking.epoch + 1) call := by
  simp only [selectAccount] at waits
  split at waits
  next => cases waits
  next =>
    split at waits
    next => cases waits
    next =>
      split at waits
      next =>
        have silent := (accountChecked_silent _ _).symm.trans (congrArg Step.asked? waits)
        cases silent.trans asks
      next =>
        cases waits
        cases asks
        rfl

theorem attached_waits {waiting : Call} {milliseconds : Nat}
    (waits : (provider.plugEvent (.attached device)).2 = .waiting waiting milliseconds)
    (asks : waiting.permission? = some call) :
    ∃ wallet, provider.ChecksAttached wallet ∧ call = provider.attachCall wallet ∧
      waiting = .attachCheck provider.tracking.epoch device.id call := by
  simp only [plugEvent] at waits
  split at waits
  next => cases waits
  next live =>
    split at waits
    next => cases waits
    next wallet named =>
      split at waits
      next => cases waits
      next free =>
        split at waits
        next =>
          have silent := (attachChecked_silent _ _ _).symm.trans (congrArg Step.asked? waits)
          cases silent.trans asks
        next =>
          cases waits
          cases asks
          exact ⟨wallet, ⟨Bool.not_eq_true _ ▸ live, named, Bool.not_eq_true _ ▸ free⟩, rfl, rfl⟩

theorem checksAttached_of_perform {deviceId : String} {milliseconds : Nat}
    (waits : (provider.perform work).2 = .waiting (.attachCheck epoch deviceId call) milliseconds) :
    ∃ host device wallet, work = .begin host (.plugEvent (.attached device)) ∧
      (provider.setHost host).ChecksAttached wallet ∧ epoch = provider.tracking.epoch ∧
      deviceId = device.id ∧ call = (provider.setHost host).attachCall wallet := by
  have unasked (silent : (provider.perform work).2.asked? = none) : False := by
    rw [waits] at silent
    cases silent
  have unpursued (silent : (provider.perform work).2.pursued? = none) : False := by
    rw [waits] at silent
    cases silent
  cases work with
  | evaluate _ _ => exact (unasked (evaluate_silent _ _)).elim
  | resume call =>
      cases call with
      | accountCheck _ _ => exact (unasked (accountChecked_silent _ _)).elim
      | attachCheck _ _ _ => exact (unasked (attachChecked_silent _ _ _)).elim
      | search _ _ => exact (unasked (searched_silent _ _)).elim
      | autoConnect _ _ _ _ => exact (unasked (followAttempt_silent _ _ _ _)).elim
      | _ => exact (unpursued (resume_pursuesNothing rfl).silent).elim
  | begin host request =>
      cases request with
      | selectAccount account => cases selectAccount_waits waits rfl
      | plugEvent event =>
          cases event with
          | detached device => exact (unpursued (detached_pursuesNothing device).silent).elim
          | attached device =>
              obtain ⟨wallet, attends, rfl, same⟩ := attached_waits waits rfl
              cases same
              exact ⟨host, device, wallet, rfl, attends, rfl, rfl, rfl⟩
      | _ => exact (unpursued (begin_pursuesNothing (by simp) (by simp)).silent).elim

theorem Reachable.attachChecks (reachable : provider.Reachable evolves) {deviceId : String}
    {due : Nat} (member : strand ∈ provider.strands)
    (waits : strand.call = some (.attachCheck epoch deviceId call, due)) :
    ∃ start device wallet, device.id = deviceId ∧
      provider.AttachChecks evolves strand start device wallet provider := by
  obtain ⟨asked, former, next, work, milliseconds, reached, present, same, takes, stops, stopped,
    waited⟩ := reachable.stopped member waits
  obtain ⟨host, device, wallet, rfl, attends, rfl, rfl, rfl⟩ := checksAttached_of_perform stops
  exact ⟨asked.setHost host, device, wallet, rfl,
    .before asked host device wallet former next due reached present same takes attends waits
      stopped waited⟩

/-! Where the answer arrives. -/

theorem eligible?_attached (current : provider.isCurrent epoch = true)
    (named : provider.wallet? = some wallet) (deviceId : String) :
    provider.eligible? epoch (.deviceAttached deviceId) =
      if provider.policy.enabled = true ∧ provider.connection.isBusy = false ∧
          provider.permission.state = .granted then some (wallet, provider.tracking.account)
      else none := by
  simp only [isCurrent, Bool.and_eq_true, Bool.not_eq_true', beq_iff_eq] at current
  have matched : provider.tracking.account.wallet? = some wallet := named
  simp only [eligible?, current.1, current.2, matched, bne_self_eq_false, Bool.or_false]
  by_cases enabled : provider.policy.enabled = true
  · by_cases granted : provider.permission.state = .granted
    · cases busy : provider.connection.isBusy <;> simp [enabled, granted]
    · simp [granted]
  · simp [enabled]

theorem evaluateLaunch?_attached (provider : Provider Bench)
    (current : provider.isCurrent epoch = true) (named : provider.wallet? = some wallet)
    (deviceId : String) :
    provider.evaluateLaunch? epoch (.deviceAttached deviceId) =
      if provider.policy.enabled = true ∧ provider.connection.isBusy = false ∧
          provider.permission.state = .granted then
        some ⟨provider, epoch, .deviceAttached deviceId, wallet, provider.tracking.account,
          deviceId⟩
      else none := by
  have eligible := eligible?_attached current named deviceId
  simp only [evaluateLaunch?, autoConnectLaunch?, eligible]
  split <;> simp_all

theorem attachCheckedCourse_launch (deviceId : String)
    (named : provider.isCurrent epoch = true → provider.wallet? = some wallet) :
    ((provider.attachCheckedCourse epoch deviceId call).launch?.isSome = true ↔
      call.permission = .granted ∧ provider.IsOpen epoch call) ∧
    ∀ launch, (provider.attachCheckedCourse epoch deviceId call).launch? = some launch →
      launch.trigger = .deviceAttached deviceId ∧ launch.deviceId = deviceId ∧
        launch.wallet = wallet := by
  let told := provider.setPermission (provider.permission.commit call)
  by_cases goes : (told.isCurrent epoch && call.permission == .granted) = true
  · let instant := told.setTracking { provider.tracking with retries := 0 }
    obtain ⟨current, granted⟩ : told.isCurrent epoch = true ∧ call.permission = .granted := by
      simpa using goes
    have matched : instant.wallet? = some wallet := named current
    have launches : (provider.attachCheckedCourse epoch deviceId call).launch? =
        if provider.policy.enabled = true ∧ provider.connection.isBusy = false ∧
            (provider.permission.commit call).state = .granted then
          some ⟨instant, epoch, .deviceAttached deviceId, wallet, provider.tracking.account,
            deviceId⟩
        else none := by
      have course : provider.attachCheckedCourse epoch deviceId call =
          .evaluation instant epoch (.deviceAttached deviceId) := if_pos goes
      rw [course]
      exact instant.evaluateLaunch?_attached current matched deviceId
    rw [launches]
    constructor
    · rw [Option.isSome_ite]
      exact ⟨fun ⟨enabled, free, known⟩ => ⟨granted, enabled, current, free, known⟩,
        fun ⟨_, ready⟩ => ⟨ready.enabled, ready.free, ready.granted⟩⟩
    · intro launch launched
      cases (Option.ite_some_none_eq_some.mp launched).2
      exact ⟨rfl, rfl, rfl⟩
  · have course : provider.attachCheckedCourse epoch deviceId call =
        .elsewhere (told, .finished .done) := if_neg goes
    rw [course, Course.launch?]
    refine ⟨iff_of_false (by simp) ?_, by simp⟩
    rintro ⟨granted, ready⟩
    refine goes ?_
    have current : told.isCurrent epoch = true := ready.current
    simp [current, granted]

namespace AttachChecks

theorem course (checks : provider.AttachChecks evolves strand start device wallet answered) :
    provider.course? strand = some
      (answered.attachCheckedCourse start.tracking.epoch device.id (start.attachCall wallet)) := by
  cases checks with
  | before asked host device wallet former next due _ _ _ _ _ waits =>
      rw [course?, work?_resume waits]
      rfl
  | now host device wallet next takes attends instant =>
      rw [course?, takes, Option.map_some]
      simp only [Provider.course, plugEventCourse, attends.live, attends.named, attends.free,
        Bool.false_eq_true, if_false]
      exact congrArg some (if_pos instant)

theorem ages (checks : provider.AttachChecks evolves strand start device wallet answered) :
    start.Ages answered := by
  cases checks with
  | now => exact (beginCheck_edits wallet).grows.toAges
  | before asked host device wallet former next due _ _ _ _ _ _ _ waited =>
      have asks : (asked.setHost host).Ages asked := .of_same rfl rfl rfl
      exact asks.trans (((asked.advance_ages former).trans letGo_ages).trans (ages_of_waits waited))

theorem checksAttached
    (checks : provider.AttachChecks evolves strand start device wallet answered) :
    start.ChecksAttached wallet := by
  cases checks with
  | now _ _ _ _ _ attends _ => exact attends
  | before _ _ _ _ _ _ _ _ _ _ _ attends => exact attends

theorem named (checks : provider.AttachChecks evolves strand start device wallet answered)
    (current : answered.isCurrent start.tracking.epoch = true) :
    answered.wallet? = some wallet := by
  simp only [isCurrent, Bool.and_eq_true, beq_iff_eq] at current
  rw [wallet?, checks.ages.account current.2]
  exact checks.checksAttached.named

theorem launches (checks : provider.AttachChecks evolves strand start device wallet answered) :
    ((provider.launch? strand).isSome = true ↔ start.host.Offers wallet ∧
      answered.IsOpen start.tracking.epoch (start.attachCall wallet)) ∧
    ∀ launch, provider.launch? strand = some launch →
      launch.trigger = .deviceAttached device.id ∧ launch.deviceId = device.id ∧
        launch.wallet = wallet := by
  have same : provider.launch? strand = (answered.attachCheckedCourse start.tracking.epoch
      device.id (start.attachCall wallet)).launch? := by
    rw [launch?, checks.course, Option.bind_some]
  rw [same, ← MemoryHost.inquire_granted_iff]
  exact attachCheckedCourse_launch device.id checks.named

end AttachChecks

/-! What leads to an evaluation for an attached device. -/

omit [AdapterBench Bench] in
theorem trigger_of_accountChecked {trigger : Trigger} {selection : Nat}
    (course : provider.accountCheckedCourse selection call = .evaluation start epoch trigger) :
    trigger = .accountChanged := by
  simp only [accountCheckedCourse] at course
  split at course
  all_goals cases course
  rfl

theorem evaluation_attached {deviceId : String}
    (course : provider.course work = .evaluation start epoch (.deviceAttached deviceId)) :
    work = .evaluate epoch (.deviceAttached deviceId) ∨
      (∃ selection device call, work = .resume (.attachCheck selection device call)) ∨
      ∃ host device wallet, work = .begin host (.plugEvent (.attached device)) ∧
        (provider.setHost host).ChecksAttached wallet ∧
        ((provider.setHost host).beginCheck wallet).2.2 = 0 := by
  cases work with
  | evaluate _ _ =>
      cases course
      exact .inl rfl
  | resume call =>
      cases call with
      | accountCheck _ _ => cases trigger_of_accountChecked course
      | attachCheck selection device call => exact .inr (.inl ⟨selection, device, call, rfl⟩)
      | _ => cases course
  | begin host request =>
      cases request with
      | selectAccount account =>
          simp only [Provider.course, selectAccountCourse] at course
          split at course
          next => cases course
          next =>
            split at course
            next => cases course
            next =>
              split at course
              next => cases trigger_of_accountChecked course
              next => cases course
      | plugEvent event =>
          simp only [Provider.course, plugEventCourse] at course
          split at course
          next => cases course
          next live =>
            split at course
            next => cases course
            next wallet named =>
              split at course
              next => cases course
              next device =>
                split at course
                next => cases course
                next free =>
                  split at course
                  next instant =>
                    exact .inr (.inr ⟨host, device, wallet, rfl, ⟨Bool.not_eq_true _ ▸ live, named,
                      Bool.not_eq_true _ ▸ free⟩, instant⟩)
                  next => cases course
      | _ => cases course

/-- Whoever connects to an attached device has checked the permission when it was attached, or tries
again. -/
theorem Reachable.attachChecks_of_launch (reachable : provider.Reachable evolves)
    (member : strand ∈ provider.strands) {launch : Launch Bench} {deviceId : String}
    (launched : provider.launch? strand = some launch)
    (attached : launch.trigger = .deviceAttached deviceId)
    (first : ∀ epoch trigger due, strand.duty ≠ .retry epoch trigger due) :
    ∃ start device wallet answered,
      provider.AttachChecks evolves strand start device wallet answered := by
  obtain ⟨work, next, takes, launched⟩ := takes_of_launch launched
  cases course : provider.course work with
  | elsewhere result =>
      rw [course] at launched
      cases launched
  | answer instant epoch found =>
      rw [course] at launched
      obtain ⟨_, _, _, changed, _⟩ := of_searchedLaunch launched
      cases changed.symm.trans attached
  | evaluation start epoch trigger =>
      rw [course] at launched
      obtain ⟨_, _, _, rfl, _⟩ := of_evaluateLaunch launched
      rw [attached] at course
      rcases evaluation_attached course with
        rfl | ⟨selection, device, call, rfl⟩ | ⟨host, device, wallet, rfl, attends, instant⟩
      · obtain ⟨due, duty⟩ := duty_of_evaluate takes
        exact absurd duty (first _ _ due)
      · obtain ⟨due, waits⟩ := call_of_resume takes
        obtain ⟨start, device, wallet, _, checks⟩ := reachable.attachChecks member waits
        exact ⟨start, device, wallet, provider, checks⟩
      · exact ⟨_, device, wallet, _, .now host device wallet next takes attends instant⟩

/-- When a device is attached, the provider goes on to connect to it exactly if an enumeration at
that time brings a paired device of the wallet, any one, and nothing else is missing once the answer
is there. Except for retries no other connects are made to attached devices. -/
theorem attached_device_connected_by_wallet_permission (reachable : provider.Reachable evolves)
    (member : strand ∈ provider.strands) :
    (∀ launch deviceId, provider.launch? strand = some launch →
      launch.trigger = .deviceAttached deviceId →
      (∀ epoch trigger due, strand.duty ≠ .retry epoch trigger due) →
      ∃ start device wallet answered,
        provider.AttachChecks evolves strand start device wallet answered) ∧
    ∀ start device wallet answered,
      provider.AttachChecks evolves strand start device wallet answered →
      ((provider.launch? strand).isSome = true ↔ start.host.Offers wallet ∧
        answered.IsOpen start.tracking.epoch (start.attachCall wallet)) ∧
      ∀ launch, provider.launch? strand = some launch →
        launch.trigger = .deviceAttached device.id ∧ launch.deviceId = device.id ∧
          launch.wallet = wallet :=
  ⟨fun _ _ launched attached first =>
      reachable.attachChecks_of_launch member launched attached first,
    fun _ _ _ _ checks => checks.launches⟩

def pairedLater : Provider SimulatedBench :=
  let selected := (ofBench {}).begun (.selectAccount (.ofWallet .ledger "0x1"))
  selected.setHost (selected.host.pair .webHid { vendorId := 0x2c97, productId := 1 })

def unpairedDevice : Device := { vendorId := 0x2c97, productId := 2 }

def attaching : Strand := pairedLater.asker (.plugEvent (.attached unpairedDevice))

def withUnpaired : Provider SimulatedBench :=
  pairedLater.asking (.plugEvent (.attached unpairedDevice))

theorem withUnpaired_reachable : withUnpaired.Reachable fun _ _ => True :=
  ⟨ofBench {}, (ofBench_isFresh {}).toIsNew,
    ((begun_run _ _).tail (.onHost _ _)).tail (.request pairedLater _)⟩

theorem withUnpaired_checks : withUnpaired.AttachChecks (fun _ _ => True) attaching withUnpaired
    unpairedDevice .ledger (withUnpaired.beginCheck .ledger).1 :=
  .now withUnpaired.host unpairedDevice .ledger attaching rfl ⟨rfl, rfl, rfl⟩ rfl

theorem attached_device_connected_by_wallet_permission_withUnpaired :
    (withUnpaired.launch? attaching).isSome = true := by
  have member : attaching ∈ withUnpaired.strands := List.mem_append_right _ (.head _)
  obtain ⟨_, decides⟩ :=
    attached_device_connected_by_wallet_permission withUnpaired_reachable member
  have offers : withUnpaired.host.Offers .ledger :=
    ⟨.webHid, rfl, rfl, { vendorId := 0x2c97, productId := 1 }, .head _, rfl⟩
  exact (decides _ _ _ _ withUnpaired_checks).1.mpr ⟨offers, rfl, rfl, rfl, rfl⟩

theorem unpaired_device_is_connected :
    withUnpaired.Reachable (fun _ _ => True) ∧ attaching ∈ withUnpaired.strands ∧
    withUnpaired.canMove attaching = true ∧
    withUnpaired.AttachChecks (fun _ _ => True) attaching withUnpaired unpairedDevice .ledger
      (withUnpaired.beginCheck .ledger).1 ∧
    Wallet.ledger.accepts unpairedDevice = true ∧
    (∃ launch, withUnpaired.launch? attaching = some launch ∧
      launch.deviceId = unpairedDevice.id) ∧
    ∃ paired, (withUnpaired.host.inquire .ledger).2.answer = .answered (.ok [paired]) ∧
      paired.id ≠ unpairedDevice.id :=
  ⟨withUnpaired_reachable, List.mem_append_right _ (.head _), rfl, withUnpaired_checks, rfl,
    ⟨_, rfl, rfl⟩, { vendorId := 0x2c97, productId := 1 }, rfl, by decide⟩

end Provider

end SignerLink
