import SignerLink.Adapter.Simulated
import SignerLink.Proofs.Connection.Engaged
import SignerLink.Proofs.Provider.Search
import SignerLink.Proofs.Provider.Simulation
/-!
Connects that nobody asked for. One starts only while it is wanted, permitted and in nobody's way,
and for an account selection only on a device that was searched for since.
-/

namespace SignerLink

namespace Strand

def takesOver (strand : Strand) : Bool :=
  match strand.call, strand.duty with
  | none, .caller request => request.takesOver
  | _, _ => false

def epoch? (strand : Strand) : Option Nat :=
  match strand.call, strand.duty with
  | some (.accountCheck epoch _, _), _ | some (.attachCheck epoch _ _, _), _
  | some (.search epoch _, _), _ => some epoch
  | none, .retry epoch _ _ => some epoch
  | _, _ => none

end Strand

variable {Bench : Type} [AdapterBench Bench]

structure Launch.IsAllowed (launch : Launch Bench) : Prop where
  enabled : launch.instant.policy.enabled = true
  live : launch.instant.isCancelled = false
  epoch : launch.instant.tracking.epoch = launch.epoch
  account : launch.instant.tracking.account = launch.account
  wallet : launch.account.wallet? = some launch.wallet
  granted : launch.instant.permission.state = .granted
  still : launch.instant.connection.session.connecting = false
  unconnected : launch.instant.connection.isAdapterConnected = false
  incomplete : launch.trigger = .accountChanged →
    launch.instant.tracking.completedFor ≠ some launch.account

/-- The device of a launch was found by a search of the evaluation that the launch belongs to: in
this very turn, or in an earlier one of the strand, since when it has waited for the answer. -/
inductive Launch.IsDiscovered (evolves : Bench → Bench → Prop) (provider : Provider Bench)
    (strand : Strand) (launch : Launch Bench) : Prop where
  | now (start : Provider Bench) :
      provider.course? strand = some (.evaluation start launch.epoch .accountChanged) →
      start.Asks launch.epoch launch.wallet launch.account (.ok (some launch.deviceId)) →
      IsDiscovered evolves provider strand launch
  | before (asked start : Provider Bench) (former : Strand) :
      asked.Reachable evolves → former ∈ asked.strands → former.id = strand.id →
      asked.course? former = some (.evaluation start launch.epoch .accountChanged) →
      start.Asks launch.epoch launch.wallet launch.account (.ok (some launch.deviceId)) →
      strand ∈ (asked.advance former).letGo.strands →
      Relation.ReflTransGen (Provider.Waits evolves strand) (asked.advance former).letGo
        provider →
      IsDiscovered evolves provider strand launch

/-- No attempt that goes on under the session's token is under way. -/
def Launch.SparesAttempts (launch : Launch Bench) (provider : Provider Bench) : Prop :=
  ∀ call ∈ provider.onConnection, ∀ adapter, call.flight = .attempt call.token adapter →
    launch.instant.connection.session.token ≠ some call.token

theorem Launch.IsAllowed.sameWallet {launch : Launch Bench} (allowed : launch.IsAllowed)
    {wallet : Wallet} {account : Account}
    (tracked : launch.instant.tracking.account = account)
    (named : account.wallet? = some wallet) :
    launch.account = account ∧ launch.wallet = wallet := by
  have same : launch.account = account := allowed.account.symm.trans tracked
  have wallets := allowed.wallet
  rw [same, named] at wallets
  exact ⟨same, (Option.some.inj wallets).symm⟩

namespace Provider

variable {evolves : Bench → Bench → Prop} {provider : Provider Bench} {strand : Strand}
  {launch : Launch Bench}

/-! Eligibility. -/

theorem isAllowed_of_eligible {epoch : Nat} {trigger : Trigger} {wallet : Wallet}
    {account : Account} (eligible : provider.eligible? epoch trigger = some (wallet, account))
    (deviceId : String) :
    Launch.IsAllowed ⟨provider, epoch, trigger, wallet, account, deviceId⟩ := by
  simp only [eligible?] at eligible
  split at eligible
  next => cases eligible
  next goes =>
    simp only [Bool.or_eq_true, Bool.not_eq_true', bne_iff_ne, ne_eq, not_or, Bool.not_eq_false,
      Bool.not_eq_true, not_not] at goes
    obtain ⟨⟨enabled, live⟩, current⟩ := goes
    split at eligible
    next => cases eligible
    next named =>
      split at eligible
      next => cases eligible
      next incomplete =>
        split at eligible
        next => cases eligible
        next granted =>
          split at eligible
          next => cases eligible
          next idle =>
            cases eligible
            simp only [Connection.isBusy, Bool.or_eq_true, not_or, Bool.not_eq_true] at idle
            exact ⟨enabled, live, current, rfl, named, not_not.mp granted, idle.1, idle.2,
              fun changed completed => incomplete ⟨changed, completed⟩⟩

theorem eligible?_stale {epoch : Nat} (stale : provider.tracking.epoch ≠ epoch)
    (trigger : Trigger) : provider.eligible? epoch trigger = none := by
  simp [eligible?, stale]

omit [AdapterBench Bench] in
theorem isCurrent_stale {epoch : Nat} (stale : provider.tracking.epoch ≠ epoch) :
    provider.isCurrent epoch = false := by
  simp [isCurrent, stale]

/-! Where a launch comes from. -/

theorem of_autoConnectLaunch {epoch : Nat} {trigger : Trigger} {deviceId : String}
    (launched : provider.autoConnectLaunch? epoch trigger deviceId = some launch) :
    launch.IsAllowed ∧ launch.instant = provider ∧ launch.epoch = epoch ∧
      launch.trigger = trigger ∧ launch.deviceId = deviceId := by
  simp only [autoConnectLaunch?] at launched
  split at launched
  next => cases launched
  next wallet account eligible =>
    cases launched
    exact ⟨isAllowed_of_eligible eligible deviceId, rfl, rfl, rfl, rfl⟩

theorem of_searchedLaunch {epoch : Nat} {found : DeviceSearch}
    (launched : provider.searchedLaunch? epoch found = some launch) :
    launch.IsAllowed ∧ launch.instant = provider ∧ launch.epoch = epoch ∧
      launch.trigger = .accountChanged ∧ found = .ok (some launch.deviceId) := by
  simp only [searchedLaunch?] at launched
  split at launched
  next =>
    split at launched
    next deviceId =>
      obtain ⟨allowed, instant, same, trigger, device⟩ := of_autoConnectLaunch launched
      exact ⟨allowed, instant, same, trigger, by rw [device]⟩
    next => cases launched
  next => cases launched

theorem of_evaluateLaunch {epoch : Nat} {trigger : Trigger}
    (launched : provider.evaluateLaunch? epoch trigger = some launch) :
    launch.IsAllowed ∧ launch.instant.connection = provider.connection ∧ launch.epoch = epoch ∧
      launch.trigger = trigger ∧ (trigger = .accountChanged →
        provider.Asks launch.epoch launch.wallet launch.account (.ok (some launch.deviceId))) := by
  simp only [evaluateLaunch?] at launched
  split at launched
  next => cases launched
  next wallet account eligible =>
    split at launched
    next deviceId =>
      obtain ⟨allowed, instant, same, trigger, _⟩ := of_autoConnectLaunch launched
      exact ⟨allowed, by rw [instant], same, trigger, fun changed => by cases changed⟩
    next =>
      split at launched
      next =>
        obtain ⟨allowed, instant, rfl, trigger, found⟩ := of_searchedLaunch launched
        refine ⟨allowed, by rw [instant]; rfl, rfl, trigger, fun _ => ?_⟩
        have start := isAllowed_of_eligible eligible launch.deviceId
        have tracked : launch.instant.tracking.account = account := by
          rw [instant]
          exact start.account
        obtain ⟨sameAccount, sameWallet⟩ := allowed.sameWallet tracked start.wallet
        rw [sameAccount, sameWallet]
        exact ⟨eligible, found⟩
      next => cases launched

/-! Turns. -/

omit [AdapterBench Bench] in
theorem work?_takesOver {work : Work} {next : Strand}
    (takes : provider.work? strand = some (work, next)) (aside : strand.takesOver = false) :
    work.takesOver = false := by
  simp only [work?] at takes
  split at takes
  next => cases takes; rfl
  next idle =>
    split at takes
    next request duty =>
      cases takes
      simp only [Strand.takesOver, idle, duty] at aside
      exact aside
    all_goals
      repeat' split at takes
      all_goals cases takes
      all_goals rfl

theorem result_of_launch {course : Course Bench} (launched : course.launch? = some launch) :
    course.result = launch.result := by
  cases course with
  | elsewhere result => cases launched
  | evaluation instant epoch trigger => exact evaluate_of_launch launched
  | answer instant epoch found => exact searched_of_launch launched

theorem result_lastToken (allowed : launch.IsAllowed) :
    launch.result.1.connection.lastToken = launch.instant.connection.lastToken + 1 := by
  simp only [Launch.result, followAttempt_connection]
  exact Connection.connect_lastToken _ allowed.live _ _

theorem of_launch {work : Work} (launched : (provider.course work).launch? = some launch) :
    launch.IsAllowed ∧
      (launch.instant.connection = provider.connection ∨
        launch.instant.connection = provider.connection.reset) ∧
      (launch.trigger = .accountChanged →
        (∃ start, provider.course work = .evaluation start launch.epoch .accountChanged ∧
          start.Asks launch.epoch launch.wallet launch.account (.ok (some launch.deviceId))) ∨
        launch.instant = provider ∧
          work = .resume (.search launch.epoch (.ok (some launch.deviceId)))) := by
  have follows : (provider.course work).Follows provider work := course_follows work
  cases course : provider.course work with
  | elsewhere result =>
      rw [course] at launched
      cases launched
  | evaluation start epoch trigger =>
      rw [course] at launched follows
      obtain ⟨allowed, connection, rfl, rfl, asks⟩ := of_evaluateLaunch launched
      refine ⟨allowed, ?_, fun changed => .inl ⟨start, ?_, asks changed⟩⟩
      · rw [connection]
        exact follows
      · rw [changed]
  | answer instant epoch found =>
      rw [course] at launched follows
      obtain ⟨rfl, rfl⟩ := follows
      obtain ⟨allowed, instant, rfl, _, rfl⟩ := of_searchedLaunch launched
      exact ⟨allowed, .inl (by rw [instant]), fun _ => .inr ⟨instant, rfl⟩⟩

theorem connection_of_still {work : Work} (aside : work.takesOver = false)
    (still : (provider.course work).launch? = none) :
    (provider.perform work).1.connection.lastToken = provider.connection.lastToken := by
  have follows : (provider.course work).Follows provider work := course_follows work
  rw [perform_eq]
  cases course : provider.course work with
  | elsewhere result =>
      rw [course] at follows
      exact follows.2 aside
  | evaluation start epoch trigger =>
      rw [course] at follows still
      obtain ⟨host, step, same, _⟩ := evaluate_of_none still
      have kept : (start.evaluate epoch trigger).1.connection = start.connection := by
        rw [same]
        rfl
      exact (congrArg Connection.lastToken kept).trans (lastToken_of_reset follows)
  | answer instant epoch found =>
      rw [course] at follows still
      have same : instant.searched epoch found = (instant, .finished .done) :=
        searched_of_none still
      obtain ⟨rfl, _⟩ := follows
      exact congrArg (fun result => result.1.connection.lastToken) same

theorem takes_of_launch (launched : provider.launch? strand = some launch) :
    ∃ work next, provider.work? strand = some (work, next) ∧
      (provider.course work).launch? = some launch := by
  obtain ⟨course, taken, launched⟩ := Option.bind_eq_some_iff.mp launched
  obtain ⟨⟨work, next⟩, takes, rfl⟩ := Option.map_eq_some_iff.mp taken
  exact ⟨work, next, takes, launched⟩

/-- Unless it was asked for, a turn gives out a token exactly where it launches. -/
theorem launch?_isSome_iff (aside : strand.takesOver = false) :
    (provider.launch? strand).isSome = true ↔
      (provider.advance strand).connection.lastToken ≠ provider.connection.lastToken := by
  cases takes : provider.work? strand with
  | none =>
      have idles := advance_of_idle takes
      have kept : (provider.advance strand).connection.lastToken =
          provider.connection.lastToken := by
        rcases idles.connection with same | same | same
        · rw [same]
        · rw [same]
          exact Connection.react_lastToken _ .pump
        · rw [same]
          rfl
      simp [launch?, course?, takes, kept]
  | some taken =>
      obtain ⟨work, next⟩ := taken
      have same : (provider.launch? strand) = (provider.course work).launch? := by
        simp [launch?, course?, takes]
      rw [same, advance_of_work takes, proceed_connection]
      cases launched : (provider.course work).launch? with
      | none => simpa using connection_of_still (work?_takesOver takes aside) launched
      | some launch =>
          obtain ⟨allowed, reset, _⟩ := of_launch launched
          have given := result_lastToken allowed
          rw [lastToken_of_reset reset, ← result_of_launch launched, ← perform_eq] at given
          rw [given]
          simp

theorem advance_stale {epoch : Nat} (learned : strand.epoch? = some epoch)
    (stale : provider.tracking.epoch ≠ epoch) :
    (provider.advance strand).connection = provider.connection := by
  have ineligible := eligible?_stale stale
  have old := isCurrent_stale stale
  obtain ⟨id, duty, call⟩ := strand
  rcases call with _ | ⟨call, due⟩
  · cases duty with
    | retry selection trigger due =>
        cases learned
        simp only [advance]
        split
        · rfl
        · simp only [evaluate, ineligible, proceed_connection]
    | _ => cases learned
  · cases call with
    | accountCheck selection call =>
        cases learned
        have later : (provider.setPermission (provider.permission.commit call)).isCurrent epoch =
          false := old
        simp [advance, resume, accountChecked, later]
        rfl
    | attachCheck selection deviceId call =>
        cases learned
        have later : (provider.setPermission (provider.permission.commit call)).isCurrent epoch =
          false := old
        simp [advance, resume, attachChecked, later]
        rfl
    | search selection found =>
        cases learned
        simp [advance, resume, searched, old]
    | _ => cases learned

theorem isDiscovered_of_search (reachable : provider.Reachable evolves)
    (member : strand ∈ provider.strands) {due : Nat}
    (waits : strand.call = some (.search launch.epoch (.ok (some launch.deviceId)), due))
    (allowed : launch.IsAllowed) (instant : launch.instant = provider) :
    launch.IsDiscovered evolves provider strand := by
  obtain ⟨asked, start, former, wallet, account, reached, present, same, course, asks, stopped,
    waited⟩ := reachable.searches member waits
  have began := isAllowed_of_eligible asks.eligible launch.deviceId
  have ages := (ages_of_evaluation course).trans (ages_of_waits waited)
  have tracked : launch.instant.tracking.account = account := by
    rw [instant]
    have epoch : provider.tracking.epoch = start.tracking.epoch := by
      rw [began.epoch, ← allowed.epoch, instant]
    exact (ages.account epoch).trans began.account
  obtain ⟨sameAccount, sameWallet⟩ := allowed.sameWallet tracked began.wallet
  refine .before asked start former reached present same course ?_ stopped waited
  rw [sameAccount, sameWallet]
  exact asks

theorem sparesAttempts (reachable : provider.Reachable fun _ _ => True)
    (allowed : launch.IsAllowed)
    (reset : launch.instant.connection = provider.connection ∨
      launch.instant.connection = provider.connection.reset) :
    launch.SparesAttempts provider := by
  intro call waits adapter flight current
  rcases reset with same | same
  · have engaged := reachable.run.2.engaged Connection.serves_always
    have flies : .attempt call.token adapter ∈ provider.run.situation.flights :=
      flight ▸ Multiset.mem_map_of_mem _ waits
    rw [same] at current
    have busy : provider.connection.session.connecting = true :=
      engaged.attempts call.token adapter current flies
    have still := allowed.still
    rw [same, busy] at still
    cases still
  · rw [same, Connection.reset_session] at current
    cases current

/-- A connect that nobody asked for starts only if connecting without being asked is on, the
selection is still the one that it was decided for, and the connection is free; after an account
selection only for an account that has not had its connect, on a device that this evaluation has
searched for. It takes the connection from no attempt, every other turn that was not asked to
leaves it where it is, and so does what was learned for a selection that is over. -/
theorem launch_only_when_allowed (reachable : provider.Reachable fun _ _ => True)
    (member : strand ∈ provider.strands) :
    (∀ launch, provider.launch? strand = some launch →
      launch.IsAllowed ∧ launch.SparesAttempts provider ∧
      (launch.trigger = .accountChanged →
        launch.IsDiscovered (fun _ _ => True) provider strand) ∧
      ∃ next, provider.advance strand = launch.result.1.proceed next launch.result.2) ∧
    (strand.takesOver = false → ((provider.launch? strand).isSome = true ↔
      (provider.advance strand).connection.lastToken ≠ provider.connection.lastToken)) ∧
    (∀ epoch, strand.epoch? = some epoch → provider.tracking.epoch ≠ epoch →
      (provider.advance strand).connection = provider.connection) := by
  refine ⟨?_, launch?_isSome_iff, fun epoch => advance_stale⟩
  intro launch launched
  obtain ⟨work, next, takes, launched⟩ := takes_of_launch launched
  obtain ⟨allowed, reset, discovered⟩ := of_launch launched
  refine ⟨allowed, sparesAttempts reachable allowed reset, fun changed => ?_, next, ?_⟩
  · rcases discovered changed with ⟨start, course, asks⟩ | ⟨instant, rfl⟩
    · exact .now start (by rw [course?, takes, Option.map_some, course]) asks
    · obtain ⟨due, waits⟩ := call_of_resume takes
      exact isDiscovered_of_search reachable member waits allowed instant
  · rw [advance_of_work takes, perform_eq, result_of_launch launched]

def firstSelection : Strand :=
  { id := 0, duty := .caller (.selectAccount (.ofWallet .ledger "0x1")) }

def pairedOnce : Provider SimulatedBench :=
  { connection := { bench := {} }
    host := { paired := [(.webHid, { vendorId := 0x2c97, productId := 1 })] } }

theorem launch_only_when_allowed_firstSelection :
    (pairedOnce.spawn firstSelection.duty).1.Reachable (fun _ _ => True) ∧
    firstSelection ∈ (pairedOnce.spawn firstSelection.duty).1.strands ∧
    firstSelection.takesOver = false ∧
    ∃ launch, (pairedOnce.spawn firstSelection.duty).1.launch? firstSelection = some launch ∧
      launch.IsAllowed ∧ launch.deviceId = "1" ∧
      launch.IsDiscovered (fun _ _ => True) (pairedOnce.spawn firstSelection.duty).1
        firstSelection := by
  have reachable : (pairedOnce.spawn firstSelection.duty).1.Reachable (fun _ _ => True) :=
    ⟨pairedOnce, ⟨rfl, rfl⟩, .single (.request pairedOnce _)⟩
  have member : firstSelection ∈ (pairedOnce.spawn firstSelection.duty).1.strands :=
    List.mem_cons_self
  obtain ⟨onLaunch, _, _⟩ := launch_only_when_allowed reachable member
  obtain ⟨launch, launched⟩ : ∃ launch,
      (pairedOnce.spawn firstSelection.duty).1.launch? firstSelection = some launch :=
    Option.isSome_iff_exists.mp rfl
  obtain ⟨allowed, _, discovered, _⟩ := onLaunch launch launched
  have known : some (.accountChanged, "1") = some (launch.trigger, launch.deviceId) :=
    congrArg (Option.map fun launch : Launch SimulatedBench => (launch.trigger, launch.deviceId))
      launched
  obtain ⟨trigger, device⟩ := Prod.mk.inj (Option.some.inj known)
  exact ⟨reachable, member, rfl, launch, launched, allowed, device.symm, discovered trigger.symm⟩

end Provider

end SignerLink
