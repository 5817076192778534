import SignerLink.Proofs.Connection.Allocation
import SignerLink.Proofs.Provider.Work
import SignerLink.Proofs.Provider.Turn
/-!
The course of a strand's turn, as far as it bears on connecting without being asked: whether the
turn comes to an evaluation, or to the answer of a search that an evaluation has begun, and where
that leads on to a connect.
-/

namespace SignerLink

/-- A connect that nobody asked for, with the provider as it is at the instant of it. -/
structure Launch (Bench : Type) where
  instant : Provider Bench
  epoch : Nat
  trigger : Trigger
  wallet : Wallet
  account : Account
  deviceId : String

/-- What a piece of work comes to. -/
inductive Course (Bench : Type) where
  | elsewhere (result : Provider Bench × Provider.Step)
  | evaluation (instant : Provider Bench) (epoch : Nat) (trigger : Trigger)
  | answer (instant : Provider Bench) (epoch : Nat) (found : DeviceSearch)

namespace Provider

variable {Bench : Type} [AdapterBench Bench] (provider : Provider Bench)

/-! Connects. -/

def autoConnectLaunch? (epoch : Nat) (trigger : Trigger) (deviceId : String) :
    Option (Launch Bench) :=
  match provider.eligible? epoch trigger with
  | none => none
  | some (wallet, account) => some ⟨provider, epoch, trigger, wallet, account, deviceId⟩

def searchedLaunch? (epoch : Nat) (found : DeviceSearch) : Option (Launch Bench) :=
  if provider.isCurrent epoch then
    match found with
    | .ok (some deviceId) => provider.autoConnectLaunch? epoch .accountChanged deviceId
    | _ => none
  else none

def evaluateLaunch? (epoch : Nat) (trigger : Trigger) : Option (Launch Bench) :=
  match provider.eligible? epoch trigger with
  | none => none
  | some (wallet, _) =>
      match trigger with
      | .deviceAttached deviceId => provider.autoConnectLaunch? epoch trigger deviceId
      | .accountChanged =>
          let (host, awaited) := provider.host.inquire wallet
          if awaited.delay = 0 then
            (provider.setHost host).searchedLaunch? epoch (awaited.answer.deviceId wallet)
          else none

/-! Courses. -/

def accountCheckedCourse (epoch : Nat) (call : PermissionCall) : Course Bench :=
  let provider := provider.setPermission (provider.permission.commit call)
  if provider.isCurrent epoch then .evaluation provider epoch .accountChanged
  else .elsewhere (provider, .finished .done)

def attachCheckedCourse (epoch : Nat) (deviceId : String) (call : PermissionCall) :
    Course Bench :=
  let provider := provider.setPermission (provider.permission.commit call)
  if provider.isCurrent epoch && call.permission == .granted then
    .evaluation (provider.setTracking { provider.tracking with retries := 0 }) epoch
      (.deviceAttached deviceId)
  else .elsewhere (provider, .finished .done)

def selectAccountCourse (account : Account) : Course Bench :=
  if provider.isCancelled || provider.tracking.account == account then
    .elsewhere (provider, .finished .done)
  else
    let provider := provider.track account
    match account.wallet? with
    | none => .elsewhere (provider.release, .finished .done)
    | some wallet =>
        let epoch := provider.tracking.epoch
        let (provider, call, delay) := (provider.turnTo wallet).beginCheck wallet
        if delay = 0 then provider.accountCheckedCourse epoch call
        else .elsewhere (provider, .waiting (.accountCheck epoch call) delay)

def plugEventCourse (event : PlugEvent) : Course Bench :=
  if provider.isCancelled then .elsewhere (provider, .finished .done)
  else
    match provider.wallet? with
    | none => .elsewhere (provider, .finished .done)
    | some wallet =>
        match event with
        | .detached device => .elsewhere (provider.plugEvent (.detached device))
        | .attached device =>
            if provider.connection.isBusy then .elsewhere (provider, .finished .done)
            else
              let epoch := provider.tracking.epoch
              let (provider, call, delay) := provider.beginCheck wallet
              if delay = 0 then provider.attachCheckedCourse epoch device.id call
              else .elsewhere (provider, .waiting (.attachCheck epoch device.id call) delay)

def course : Work → Course Bench
  | .begin host (.selectAccount account) => (provider.setHost host).selectAccountCourse account
  | .begin host (.plugEvent event) => (provider.setHost host).plugEventCourse event
  | .begin host request => .elsewhere ((provider.setHost host).begin request)
  | .resume (.accountCheck epoch call) => provider.accountCheckedCourse epoch call
  | .resume (.attachCheck epoch deviceId call) =>
      provider.attachCheckedCourse epoch deviceId call
  | .resume (.search epoch found) => .answer provider epoch found
  | .resume call => .elsewhere (provider.resume call)
  | .evaluate epoch trigger => .evaluation provider epoch trigger

def course? (strand : Strand) : Option (Course Bench) :=
  (provider.work? strand).map fun taken => provider.course taken.1

end Provider

namespace Launch

variable {Bench : Type} [AdapterBench Bench]

def result (launch : Launch Bench) : Provider Bench × Provider.Step :=
  let (connection, progress) :=
    launch.instant.connection.connect launch.wallet (.device launch.deviceId)
  (launch.instant.setConnection connection).followAttempt launch.epoch launch.account
    launch.trigger progress

end Launch

namespace Course

variable {Bench : Type} [AdapterBench Bench]

def result : Course Bench → Provider Bench × Provider.Step
  | .elsewhere result => result
  | .evaluation instant epoch trigger => instant.evaluate epoch trigger
  | .answer instant epoch found => instant.searched epoch found

def launch? : Course Bench → Option (Launch Bench)
  | .elsewhere _ => none
  | .evaluation instant epoch trigger => instant.evaluateLaunch? epoch trigger
  | .answer instant epoch found => instant.searchedLaunch? epoch found

end Course

namespace Provider

variable {Bench : Type} [AdapterBench Bench] {provider : Provider Bench}

def launch? (provider : Provider Bench) (strand : Strand) : Option (Launch Bench) :=
  (provider.course? strand).bind Course.launch?

/-! The courses are those of the work itself. -/

theorem accountChecked_eq (epoch : Nat) (call : PermissionCall) :
    provider.accountChecked epoch call = (provider.accountCheckedCourse epoch call).result := by
  simp only [accountChecked, accountCheckedCourse]
  split <;> rfl

theorem attachChecked_eq (epoch : Nat) (deviceId : String) (call : PermissionCall) :
    provider.attachChecked epoch deviceId call =
      (provider.attachCheckedCourse epoch deviceId call).result := by
  simp only [attachChecked, attachCheckedCourse]
  split <;> rfl

theorem selectAccount_eq (account : Account) :
    provider.selectAccount account = (provider.selectAccountCourse account).result := by
  simp only [selectAccount, selectAccountCourse]
  split
  next => rfl
  next =>
    cases account.wallet? with
    | none => rfl
    | some wallet =>
        simp only
        split
        next => exact accountChecked_eq _ _
        next => rfl

theorem plugEvent_eq (event : PlugEvent) :
    provider.plugEvent event = (provider.plugEventCourse event).result := by
  simp only [plugEventCourse]
  split
  next ended => simp only [plugEvent, ended, if_true]; rfl
  next goes =>
    cases named : provider.wallet? with
    | none => simp only [plugEvent, goes, named, Bool.false_eq_true, if_false]; rfl
    | some wallet =>
        cases event with
        | detached device => rfl
        | attached device =>
            simp only [plugEvent, goes, named, Bool.false_eq_true, if_false]
            split
            next => rfl
            next =>
              split
              next => exact attachChecked_eq _ _ _
              next => rfl

theorem perform_eq (work : Work) : provider.perform work = (provider.course work).result := by
  cases work with
  | begin host request =>
      cases request with
      | selectAccount account => exact selectAccount_eq account
      | plugEvent event => exact plugEvent_eq event
      | _ => rfl
  | resume call =>
      cases call with
      | accountCheck epoch call => exact accountChecked_eq epoch call
      | attachCheck epoch deviceId call => exact attachChecked_eq epoch deviceId call
      | _ => rfl
  | evaluate epoch trigger => rfl

/-! Launches. -/

theorem autoConnect_of_launch {epoch : Nat} {trigger : Trigger} {deviceId : String}
    {launch : Launch Bench}
    (launched : provider.autoConnectLaunch? epoch trigger deviceId = some launch) :
    provider.autoConnect epoch trigger deviceId = launch.result := by
  simp only [autoConnectLaunch?] at launched
  split at launched
  next => cases launched
  next wallet account eligible =>
    cases launched
    simp only [autoConnect, eligible, Launch.result]

theorem autoConnect_of_none {epoch : Nat} {trigger : Trigger} {deviceId : String}
    (still : provider.autoConnectLaunch? epoch trigger deviceId = none) :
    provider.autoConnect epoch trigger deviceId = (provider, .finished .done) := by
  simp only [autoConnectLaunch?] at still
  split at still
  next ineligible => simp only [autoConnect, ineligible]
  next => cases still

theorem searched_of_launch {epoch : Nat} {found : DeviceSearch} {launch : Launch Bench}
    (launched : provider.searchedLaunch? epoch found = some launch) :
    provider.searched epoch found = launch.result := by
  simp only [searchedLaunch?] at launched
  split at launched
  next current =>
    split at launched
    next deviceId =>
      simp only [searched, current, if_true]
      exact autoConnect_of_launch launched
    next => cases launched
  next => cases launched

theorem searched_of_none {epoch : Nat} {found : DeviceSearch}
    (still : provider.searchedLaunch? epoch found = none) :
    provider.searched epoch found = (provider, .finished .done) := by
  simp only [searchedLaunch?] at still
  simp only [searched]
  split
  next current =>
    rw [if_pos current] at still
    split
    next deviceId => exact autoConnect_of_none still
    next => rfl
  next => rfl

theorem evaluate_of_launch {epoch : Nat} {trigger : Trigger} {launch : Launch Bench}
    (launched : provider.evaluateLaunch? epoch trigger = some launch) :
    provider.evaluate epoch trigger = launch.result := by
  simp only [evaluateLaunch?] at launched
  split at launched
  next => cases launched
  next wallet account eligible =>
    split at launched
    next deviceId =>
      simp only [evaluate, eligible]
      exact autoConnect_of_launch launched
    next =>
      split at launched
      next instant =>
        simp only [evaluate, eligible, instant, if_true]
        exact searched_of_launch launched
      next => cases launched

theorem evaluate_of_none {epoch : Nat} {trigger : Trigger}
    (still : provider.evaluateLaunch? epoch trigger = none) :
    ∃ host step, provider.evaluate epoch trigger = (provider.setHost host, step) ∧
      (step = .finished .done ∨
        ∃ found milliseconds, step = .waiting (.search epoch found) milliseconds) := by
  simp only [evaluateLaunch?] at still
  simp only [evaluate]
  split
  next => exact ⟨provider.host, _, rfl, .inl rfl⟩
  next wallet account eligible =>
    simp only [eligible] at still
    split
    next deviceId => exact ⟨provider.host, _, autoConnect_of_none still, .inl rfl⟩
    next =>
      simp only at still
      split
      next instant =>
        rw [if_pos instant] at still
        exact ⟨_, _, searched_of_none still, .inl rfl⟩
      next => exact ⟨_, _, rfl, .inr ⟨_, _, rfl⟩⟩

/-! What a turn that does not come to an evaluation leaves behind. -/

def Step.search? : Step → Option (Nat × DeviceSearch)
  | .waiting (.search epoch found) _ => some (epoch, found)
  | _ => none

end Provider

def Request.takesOver : Request → Bool
  | .connect _ _ | .disconnect | .retry | .makeReady _ _ => true
  | .operate _ | .checkPermission _ | .requestPermission _ | .selectAccount _ | .plugEvent _
  | .shutdown | .askHost _ | .sleep _ | .join _ => false

def Work.takesOver : Work → Bool
  | .begin _ request => request.takesOver
  | .resume _ | .evaluate _ _ => false

/-- Where a course has gone without asking: it has searched for nothing, given out no token
without a request for one, and at most reset the connection before it evaluates. -/
def Course.Follows {Bench : Type} [AdapterBench Bench] (provider : Provider Bench) (work : Work) :
    Course Bench → Prop
  | .elsewhere result => result.2.search? = none ∧
      (work.takesOver = false →
        result.1.connection.lastToken = provider.connection.lastToken)
  | .evaluation instant _ _ =>
      instant.connection = provider.connection ∨ instant.connection = provider.connection.reset
  | .answer instant epoch found => instant = provider ∧ work = .resume (.search epoch found)

namespace Provider

variable {Bench : Type}

theorem followAttempt_search? (provider : Provider Bench) (epoch : Nat) (account : Account)
    (trigger : Trigger) (progress : Connection.AttemptProgress) :
    (provider.followAttempt epoch account trigger progress).2.search? = none := by
  cases progress <;> rfl

theorem Step.IsPlain.search?_none {step : Step} (plain : step.IsPlain) : step.search? = none := by
  cases step with
  | finished reply => rfl
  | waiting call milliseconds =>
      have kind := plain call milliseconds rfl
      cases call <;> first | rfl | cases kind

variable [AdapterBench Bench] {provider : Provider Bench}

theorem listen_connection (provider : Provider Bench) (wallet : Wallet) :
    (provider.listen wallet).connection = provider.connection :=
  (listen_edits wallet).connection (by decide) (by decide) (by decide)

theorem followAttempt_connection (epoch : Nat) (account : Account) (trigger : Trigger)
    (progress : Connection.AttemptProgress) :
    (provider.followAttempt epoch account trigger progress).1.connection =
      provider.connection := by
  cases progress with
  | waiting _ _ => rfl
  | finished outcome =>
      exact (settle_edits epoch account trigger outcome).connection (by decide) (by decide)
        (by decide)

theorem turnTo_connection (wallet : Wallet) :
    (provider.turnTo wallet).connection = provider.connection ∨
      (provider.turnTo wallet).connection = provider.connection.reset := by
  simp only [turnTo, listen_connection]
  split
  · exact .inr rfl
  · exact .inl rfl

theorem lastToken_of_reset {after : Provider Bench}
    (reset : after.connection = provider.connection ∨
      after.connection = provider.connection.reset) :
    after.connection.lastToken = provider.connection.lastToken := by
  rcases reset with same | same
  · rw [same]
  · rw [same, Connection.reset_lastToken]

section Follows

variable {work : Work}

theorem accountCheckedCourse_follows {asked : Provider Bench} (epoch : Nat)
    (call : PermissionCall)
    (reset : asked.connection = provider.connection ∨
      asked.connection = provider.connection.reset) :
    (asked.accountCheckedCourse epoch call).Follows provider work := by
  simp only [accountCheckedCourse]
  split
  · exact reset
  · exact ⟨rfl, fun _ => lastToken_of_reset reset⟩

theorem attachCheckedCourse_follows {asked : Provider Bench} (epoch : Nat) (deviceId : String)
    (call : PermissionCall) (same : asked.connection = provider.connection) :
    (asked.attachCheckedCourse epoch deviceId call).Follows provider work := by
  simp only [attachCheckedCourse]
  split
  · exact .inl same
  · exact ⟨rfl, fun _ => lastToken_of_reset (.inl same)⟩

theorem selectAccountCourse_follows (host : MemoryHost) (account : Account) :
    ((provider.setHost host).selectAccountCourse account).Follows provider work := by
  simp only [selectAccountCourse]
  split
  next => exact ⟨rfl, fun _ => rfl⟩
  next =>
    split
    next => exact ⟨rfl, fun _ => lastToken_of_reset (.inr rfl)⟩
    next wallet _ =>
      have turned : (((provider.setHost host).track account).turnTo wallet).connection =
            provider.connection ∨
          (((provider.setHost host).track account).turnTo wallet).connection =
            provider.connection.reset := turnTo_connection wallet
      split
      next => exact accountCheckedCourse_follows _ _ turned
      next => exact ⟨rfl, fun _ => lastToken_of_reset turned⟩

theorem detached_follows (provider : Provider Bench) (device : Device) :
    (provider.plugEvent (.detached device)).2.search? = none ∧
      (provider.plugEvent (.detached device)).1.connection.lastToken =
        provider.connection.lastToken := by
  simp only [plugEvent]
  split
  · exact ⟨rfl, rfl⟩
  · split
    · exact ⟨rfl, rfl⟩
    · split
      · exact ⟨rfl, Connection.handleDisconnect_lastToken _ _⟩
      · exact ⟨rfl, rfl⟩

theorem plugEventCourse_follows (host : MemoryHost) (event : PlugEvent) :
    ((provider.setHost host).plugEventCourse event).Follows provider work := by
  simp only [plugEventCourse]
  split
  next => exact ⟨rfl, fun _ => rfl⟩
  next =>
    split
    next => exact ⟨rfl, fun _ => rfl⟩
    next =>
      split
      next device =>
        have passed := (provider.setHost host).detached_follows device
        exact ⟨passed.1, fun _ => passed.2⟩
      next device =>
        split
        next => exact ⟨rfl, fun _ => rfl⟩
        next =>
          split
          next => exact attachCheckedCourse_follows _ _ _ rfl
          next => exact ⟨rfl, fun _ => rfl⟩

theorem begin_follows {request : Request}
    (notSelection : ∀ account, request ≠ .selectAccount account)
    (notEvent : ∀ event, request ≠ .plugEvent event) :
    (provider.begin request).2.search? = none ∧
      (request.takesOver = false →
        (provider.begin request).1.connection.lastToken = provider.connection.lastToken) := by
  cases request with
  | selectAccount account => exact absurd rfl (notSelection account)
  | plugEvent event => exact absurd rfl (notEvent event)
  | connect _ _ | disconnect | retry | makeReady _ _ =>
      exact ⟨(begin_errand rfl).plain.search?_none, fun aside => by cases aside⟩
  | operate operation =>
      exact ⟨(begin_errand rfl).plain.search?_none,
        fun _ => Connection.operate_lastToken _ operation⟩
  | checkPermission wallet =>
      simp only [begin, checkPermission]
      split
      · exact ⟨rfl, fun _ => rfl⟩
      · split <;> exact ⟨rfl, fun _ => rfl⟩
  | requestPermission wallet =>
      simp only [begin, requestPermission]
      split
      · exact ⟨rfl, fun _ => rfl⟩
      · split <;> exact ⟨rfl, fun _ => rfl⟩
  | shutdown =>
      simp only [begin, shutdown, join]
      split
      · exact ⟨rfl, fun _ => rfl⟩
      · split <;> exact ⟨rfl, fun _ => Connection.teardown_lastToken _⟩
  | askHost question =>
      have asked : (provider.hostReply question).1.connection = provider.connection := by
        cases question <;> rfl
      simp only [begin, askHost]
      split
      · exact ⟨rfl, fun _ => congrArg Connection.lastToken asked⟩
      · exact ⟨rfl, fun _ => congrArg Connection.lastToken asked⟩
  | sleep milliseconds =>
      simp only [begin, sleep]
      split <;> exact ⟨rfl, fun _ => rfl⟩
  | join strands =>
      simp only [begin, join]
      split <;> exact ⟨rfl, fun _ => rfl⟩

theorem resume_follows (call : Call) :
    (provider.course (.resume call)).Follows provider (.resume call) := by
  cases call with
  | attempt call =>
      exact ⟨(resume_errand rfl).plain.search?_none,
        fun _ => Connection.resumeAttempt_lastToken _ call⟩
  | readiness call =>
      exact ⟨(resume_errand rfl).plain.search?_none,
        fun _ => Connection.resumeReadiness_lastToken _ call⟩
  | disconnect call => exact ⟨rfl, fun _ => Connection.resumeDisconnect_lastToken _ call⟩
  | operation call => exact ⟨rfl, fun _ => Connection.operationAnswered_lastToken _ call⟩
  | autoConnect epoch account trigger call =>
      refine ⟨followAttempt_search? _ _ _ _ _, fun _ => ?_⟩
      simp only [resume, followAttempt_connection]
      exact Connection.resumeAttempt_lastToken _ call
  | permission call reply selection => exact ⟨rfl, fun _ => rfl⟩
  | accountCheck epoch call => exact accountCheckedCourse_follows _ _ (.inl rfl)
  | attachCheck epoch deviceId call => exact attachCheckedCourse_follows _ _ _ rfl
  | search epoch found => exact ⟨rfl, rfl⟩
  | host reply selection => exact ⟨rfl, fun _ => rfl⟩
  | joining strands reply =>
      simp only [course, resume, join]
      split <;> exact ⟨rfl, fun _ => rfl⟩

theorem course_follows (work : Work) : (provider.course work).Follows provider work := by
  cases work with
  | begin host request =>
      have plain (notSelection : ∀ account, request ≠ .selectAccount account)
          (notEvent : ∀ event, request ≠ .plugEvent event) :
          (Course.elsewhere ((provider.setHost host).begin request)).Follows provider
            (.begin host request) := begin_follows notSelection notEvent
      cases request with
      | selectAccount account => exact selectAccountCourse_follows host account
      | plugEvent event => exact plugEventCourse_follows host event
      | _ => exact plain (by simp) (by simp)
  | resume call => exact resume_follows call
  | evaluate epoch trigger => exact .inl rfl

end Follows

end Provider

end SignerLink
