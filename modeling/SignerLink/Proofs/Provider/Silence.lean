import SignerLink.Proofs.Connection.Unowned
import SignerLink.Proofs.Provider.Growth
/-!
What is left of earlier work once the session is over or while an account is selected that is kept
in software. It finds nothing to change, until the user acts or another account is selected.
-/

namespace SignerLink

/-- What a user asks for, unlike plug events and questions to the host. -/
def Request.isOfUser : Request → Bool
  | .connect _ _ | .disconnect | .retry | .makeReady _ _ | .operate _ | .checkPermission _
  | .requestPermission _ | .selectAccount _ | .shutdown => true
  | .plugEvent _ | .askHost _ | .sleep _ | .join _ => false

def ConnectionEvent.isPassedOn : ConnectionEvent → Bool
  | .noticed _ _ | .pump | .closeInbox => true
  | .reset | .teardown | .cancel | .clearError | .lost _ => false

def PermissionGate.Ignores (gate : PermissionGate) (call : PermissionCall) : Prop :=
  gate.cancelled = true ∨ call.number < gate.latest

theorem PermissionGate.Ignores.commit {gate : PermissionGate} {call : PermissionCall}
    (ignores : gate.Ignores call) : gate.commit call = gate := by
  apply commit_of_refused
  rcases ignores with ended | overtaken
  · simp [accepts, ended]
  · simp [accepts, Nat.ne_of_gt overtaken]

namespace Provider

variable {Bench : Type}

/-- Work that neither does what the user asks for nor selects another account. -/
def GoesOn (provider : Provider Bench) : Work → Prop
  | .begin _ (.selectAccount account) => account = provider.tracking.account
  | .begin _ request => request.isOfUser = false
  | .resume _ | .evaluate _ _ => True

variable [AdapterBench Bench]

/-- What goes on until the user acts or another account is selected. Strands take their turns,
notices and plug events come in, time passes, and the host and the devices do what they like. -/
inductive Remains (evolves : Bench → Bench → Prop) : Provider Bench → Provider Bench → Prop where
  | request (provider : Provider Bench) (request : Request) :
      Remains evolves provider (provider.spawn (.caller request)).1
  | advance (provider : Provider Bench) (strand : Strand) :
      strand ∈ provider.strands → provider.canMove strand = true →
      (∀ work next, provider.work? strand = some (work, next) → provider.GoesOn work) →
      Remains evolves provider (provider.advance strand).letGo
  | wait (provider : Provider Bench) (later : Nat) :
      provider.now ≤ later → Remains evolves provider { provider with now := later }
  | passOn (provider : Provider Bench) (event : ConnectionEvent) :
      event.isPassedOn = true →
      Remains evolves provider (provider.setConnection (provider.connection.react event))
  | onBench (provider : Provider Bench) (change : Bench → Bench × List Signal) :
      evolves provider.connection.bench (change provider.connection.bench).1 →
      Remains evolves provider (provider.setConnection (provider.connection.onBench change))
  | onHost (provider : Provider Bench) (host : MemoryHost) :
      Remains evolves provider (provider.setHost host)
  | subscribe (provider : Provider Bench) (wallet : Wallet) :
      Remains evolves provider (provider.subscribe wallet).1
  | startPump (provider : Provider Bench) : Remains evolves provider provider.startPump.1
  | stopListening (provider : Provider Bench) : Remains evolves provider provider.stopListening
  | watchAccounts (provider : Provider Bench) (account : Account) :
      Remains evolves provider (provider.watchAccounts account).1
  | publishAccount (provider : Provider Bench) (store : Nat) (account : Account) :
      Remains evolves provider (provider.publishAccount store account)
  | closeStore (provider : Provider Bench) (store : Nat) :
      Remains evolves provider (provider.closeStore store)
  | cancel (provider : Provider Bench) : Remains evolves provider provider.cancel
  | drop (provider : Provider Bench) : Remains evolves provider provider.drop

variable {provider before middle after : Provider Bench} {evolves : Bench → Bench → Prop}

/-! What stays as it is. -/

section Stays

variable [CountingBench Bench]

structure Stays (before after : Provider Bench) : Prop where
  connection : before.connection.Stays after.connection
  permission : after.permission.published = before.permission.published
  gate : before.permission.cancelled = true → after.permission.cancelled = true
  account : after.tracking.account = before.tracking.account
  completedFor : after.tracking.completedFor = before.tracking.completedFor

namespace Stays

theorem aside (connection : after.connection = before.connection)
    (permission : after.permission = before.permission)
    (tracking : after.tracking = before.tracking) : before.Stays after where
  connection := by
    rw [connection]
    exact .refl _
  permission := by rw [permission]
  gate := by
    rw [permission]
    exact id
  account := by rw [tracking]
  completedFor := by rw [tracking]

theorem refl (provider : Provider Bench) : provider.Stays provider := aside rfl rfl rfl

theorem trans (earlier : before.Stays middle) (later : middle.Stays after) :
    before.Stays after where
  connection := earlier.connection.trans later.connection
  permission := later.permission.trans earlier.permission
  gate ended := later.gate (earlier.gate ended)
  account := later.account.trans earlier.account
  completedFor := later.completedFor.trans earlier.completedFor

theorem through {connection : Connection Bench} (stays : provider.connection.Stays connection) :
    provider.Stays (provider.setConnection connection) := ⟨stays, rfl, id, rfl, rfl⟩

theorem asked (host : MemoryHost) : provider.Stays (provider.setHost host) := aside rfl rfl rfl

theorem spawned (duty : Duty) : provider.Stays (provider.spawn duty).1 := aside rfl rfl rfl

theorem tracked {tracking : Tracking} (account : tracking.account = provider.tracking.account)
    (completedFor : tracking.completedFor = provider.tracking.completedFor) :
    provider.Stays (provider.setTracking tracking) :=
  ⟨.refl provider.connection, rfl, id, account, completedFor⟩

theorem proceeded (strand : Strand) (step : Step) : provider.Stays (provider.proceed strand step) :=
  aside (proceed_connection _ _ _) (proceed_permission _ _ _) (proceed_tracking _ _ _)

end Stays

/-- Work that changes nothing, and after which nobody waits for a permission. -/
structure ChangesNothing (before : Provider Bench) (result : Provider Bench × Step) : Prop where
  stays : before.Stays result.1
  silent : result.2.asked? = none

namespace ChangesNothing

theorem finished {reply : Reply} (stays : before.Stays after) :
    before.ChangesNothing (after, .finished reply) := ⟨stays, rfl⟩

theorem waiting {call : Call} {milliseconds : Nat} (stays : before.Stays after)
    (plain : call.permission? = none) : before.ChangesNothing (after, .waiting call milliseconds) :=
  ⟨stays, plain⟩

theorem mapped {Waiting Outcome : Type} {progress : Progress Waiting Outcome}
    {call : Waiting → Call} {reply : Outcome → Reply} (stays : before.Stays after)
    (plain : ∀ waiting, (call waiting).isPlain = true) :
    before.ChangesNothing (after, progress.map call reply) :=
  ⟨stays, (Step.isPlain_map progress plain).asked?_none⟩

theorem later {result : Provider Bench × Step} (first : before.Stays middle)
    (rest : middle.ChangesNothing result) : before.ChangesNothing result :=
  ⟨first.trans rest.stays, rest.silent⟩

theorem ite {condition : Prop} [Decidable condition] {yes no : Provider Bench × Step}
    (first : before.ChangesNothing yes) (second : before.ChangesNothing no) :
    before.ChangesNothing (if condition then yes else no) := by
  split
  · exact first
  · exact second

end ChangesNothing

def IsUnwanted (provider : Provider Bench) : Prop :=
  provider.isCancelled = true ∨ provider.wallet? = none

structure IsSilent (provider : Provider Bench) : Prop where
  unowned : provider.connection.IsUnowned
  unwanted : provider.IsUnwanted
  ignored : ∀ strand ∈ provider.strands, ∀ asked, strand.asked? = some asked →
    provider.permission.Ignores asked

/-! Work. -/

section Unwanted

variable (unwanted : provider.IsUnwanted)

include unwanted

omit [CountingBench Bench] in
theorem eligible?_unwanted (epoch : Nat) (trigger : Trigger) :
    provider.eligible? epoch trigger = none := by
  rcases unwanted with ended | software
  · simp [eligible?, ended]
  · have unmatched : provider.tracking.account.wallet? = none := software
    simp [eligible?, unmatched]

theorem evaluate_changesNothing (epoch : Nat) (trigger : Trigger) :
    provider.ChangesNothing (provider.evaluate epoch trigger) := by
  simp only [evaluate, eligible?_unwanted unwanted]
  exact .finished (.refl provider)

theorem plugEvent_changesNothing (event : PlugEvent) :
    provider.ChangesNothing (provider.plugEvent event) := by
  have nothing : provider.ChangesNothing (provider, .finished .done) := .finished (.refl provider)
  rcases unwanted with ended | software
  · simp only [plugEvent, ended, if_true]
    exact nothing
  · simp only [plugEvent, software]
    exact .ite nothing nothing

theorem searched_changesNothing (epoch : Nat) (found : DeviceSearch) :
    provider.ChangesNothing (provider.searched epoch found) := by
  have nothing {reply : Reply} : provider.ChangesNothing (provider, .finished reply) :=
    .finished (.refl provider)
  simp only [searched, autoConnect, eligible?_unwanted unwanted]
  refine .ite ?_ nothing
  split
  · exact nothing
  · exact nothing

theorem accountChecked_changesNothing (epoch : Nat) {call : PermissionCall}
    (ignored : provider.permission.Ignores call) :
    provider.ChangesNothing (provider.accountChecked epoch call) := by
  simp only [accountChecked, ignored.commit]
  exact .ite (evaluate_changesNothing unwanted epoch _) (.finished (.refl provider))

theorem attachChecked_changesNothing (epoch : Nat) (deviceId : String) {call : PermissionCall}
    (ignored : provider.permission.Ignores call) :
    provider.ChangesNothing (provider.attachChecked epoch deviceId call) := by
  let renewed := provider.setTracking { provider.tracking with retries := 0 }
  have stays : provider.Stays renewed := .tracked rfl rfl
  have still : renewed.IsUnwanted := unwanted
  simp only [attachChecked, ignored.commit]
  refine .ite ?_ (.finished (.refl provider))
  exact .later stays (evaluate_changesNothing still epoch _)

end Unwanted

theorem permissionAnswered_changesNothing {call : PermissionCall}
    (ignored : provider.permission.Ignores call) (reply : Reply)
    (selection : Option (Channel × Device)) :
    provider.ChangesNothing (provider.permissionAnswered call reply selection) := by
  simp only [permissionAnswered, setHost, ignored.commit]
  exact .finished (.aside rfl rfl rfl)

omit [AdapterBench Bench] [CountingBench Bench] in
theorem settle_interrupted (epoch : Nat) (account : Account) (trigger : Trigger)
    (connection : Connection Bench) :
    provider.settle epoch account trigger connection.interruptedOutcome = provider := by
  simp only [settle, Connection.interruptedOutcome]
  split
  next => rfl
  next => cases connection.cancelled <;> rfl

theorem join_changesNothing (strands : List StrandId) (reply : Reply) :
    provider.ChangesNothing (provider.join strands reply) :=
  .ite (.waiting (.refl provider) rfl) (.finished (.refl provider))

theorem resume_changesNothing (silent : provider.IsSilent) {call : Call}
    (ignored : ∀ asked, call.permission? = some asked → provider.permission.Ignores asked) :
    provider.ChangesNothing (provider.resume call) := by
  have unowned := silent.unowned
  have unwanted := silent.unwanted
  cases call with
  | attempt call =>
      exact .mapped (.through (Connection.resumeAttempt_stays unowned call)) fun _ => rfl
  | readiness call =>
      exact .mapped (.through (Connection.resumeReadiness_stays unowned call)) fun _ => rfl
  | disconnect call =>
      exact .mapped (.through (Connection.resumeDisconnect_stays unowned call)) fun _ => rfl
  | operation call =>
      exact .mapped (.through (Connection.resumeOperation_stays unowned call)) fun _ => rfl
  | autoConnect epoch account trigger call =>
      have ended := Connection.resumeAttempt_interrupted unowned call
      simp only [resume, ended, followAttempt, settle_interrupted]
      exact .finished (.through (Connection.resumeAttempt_stays unowned call))
  | permission call reply selection =>
      exact permissionAnswered_changesNothing (ignored call rfl) reply selection
  | accountCheck epoch call => exact accountChecked_changesNothing unwanted epoch (ignored call rfl)
  | attachCheck epoch deviceId call =>
      exact attachChecked_changesNothing unwanted epoch deviceId (ignored call rfl)
  | search epoch found => exact searched_changesNothing unwanted epoch found
  | host reply selection => exact .finished (.asked _)
  | joining strands reply => exact join_changesNothing strands reply

theorem askHost_changesNothing (question : HostQuestion) :
    provider.ChangesNothing (provider.askHost question) := by
  obtain ⟨host, asked⟩ : ∃ host, (provider.hostReply question).1 = provider.setHost host := by
    cases question <;> exact ⟨_, rfl⟩
  have stays : provider.Stays (provider.hostReply question).1 := asked ▸ .asked host
  exact .ite (.finished (stays.trans (.asked _))) (.waiting stays rfl)

theorem begin_changesNothing (unwanted : provider.IsUnwanted) {host : MemoryHost}
    {request : Request} (goesOn : provider.GoesOn (.begin host request)) :
    provider.ChangesNothing (provider.begin request) := by
  cases request with
  | selectAccount account =>
      have same : provider.tracking.account == account := beq_of_eq (Eq.symm goesOn)
      simp only [begin, selectAccount, same, Bool.or_true, if_true]
      exact .finished (.refl provider)
  | plugEvent event => exact plugEvent_changesNothing unwanted event
  | askHost question => exact askHost_changesNothing question
  | sleep milliseconds => exact .ite (.finished (.refl provider)) (.waiting (.refl provider) rfl)
  | join strands => exact join_changesNothing strands _
  | connect _ _ | disconnect | retry | makeReady _ _ | operate _ | checkPermission _
  | requestPermission _ | shutdown => cases goesOn

theorem perform_changesNothing (silent : provider.IsSilent) {strand next : Strand} {work : Work}
    (member : strand ∈ provider.strands) (takes : provider.work? strand = some (work, next))
    (goesOn : provider.GoesOn work) : provider.ChangesNothing (provider.perform work) := by
  cases work with
  | begin host request =>
      have still : (provider.setHost host).IsUnwanted := silent.unwanted
      have goes : (provider.setHost host).GoesOn (.begin host request) := by
        cases request <;> exact goesOn
      exact .later (.asked host) (begin_changesNothing still goes)
  | resume call =>
      refine resume_changesNothing silent ?_
      intro asked asks
      obtain ⟨due, waits⟩ := call_of_resume takes
      have waiting : strand.asked? = some asked := by
        simp [Strand.asked?, waits, asks]
      exact silent.ignored strand member asked waiting
  | evaluate epoch trigger => exact evaluate_changesNothing silent.unwanted epoch trigger

/-! Turns and transitions. -/

theorem cancel_stays (provider : Provider Bench) : provider.Stays provider.cancel :=
  ⟨⟨rfl, rfl, fun _ => rfl, id⟩, rfl, fun _ => rfl, rfl, rfl⟩

theorem letGo_stays (provider : Provider Bench) : provider.Stays provider.letGo := by
  have closed {provider : Provider Bench} : provider.Stays
      (if provider.isConnectionKept then provider
      else provider.setConnection provider.connection.closeInbox) := by
    split
    · exact .refl provider
    · exact .through (.of_same rfl rfl rfl rfl)
  simp only [letGo]
  split
  next => exact .refl provider
  next =>
    split
    next =>
      have ended : provider.cancel.Stays
          (provider.cancel.setConnection provider.cancel.connection.teardown) :=
        .through provider.cancel.connection.teardown_stays
      exact (provider.cancel_stays.trans ended).trans closed
    next => exact closed

theorem Idles.stays (idles : before.Idles after) (unowned : before.connection.IsUnowned) :
    before.Stays after where
  connection := by
    rcases idles.connection with same | same | same
    · rw [same]
      exact .refl before.connection
    · rw [same]
      exact Connection.pump_stays unowned
    · rw [same]
      exact .of_same rfl rfl rfl rfl
  permission := by rw [idles.permission]
  gate := by
    rw [idles.permission]
    exact id
  account := by rw [idles.tracking]
  completedFor := by rw [idles.tracking]

def AsksNothing (before after : Provider Bench) : Prop :=
  ∀ strand ∈ after.strands, strand ∈ before.strands ∨ strand.asked? = none

omit [AdapterBench Bench] [CountingBench Bench] in
theorem Grows.asksNothing (grows : before.Grows after) : before.AsksNothing after := by
  intro strand member
  rcases grows.mem_strands member with stood | idle
  · exact .inl stood
  · exact .inr (Strand.asked?_idle idle)

theorem advance_stays (silent : before.IsSilent) {strand : Strand}
    (member : strand ∈ before.strands)
    (goesOn : ∀ work next, before.work? strand = some (work, next) → before.GoesOn work) :
    before.Stays (before.advance strand) ∧ before.AsksNothing (before.advance strand) := by
  cases takes : before.work? strand with
  | none =>
      have idles := advance_of_idle takes
      exact ⟨idles.stays silent.unowned, fun other present => .inl (idles.strands other present)⟩
  | some taken =>
      obtain ⟨work, next⟩ := taken
      have passes := perform_changesNothing silent member takes (goesOn work next takes)
      rw [advance_of_work takes]
      refine ⟨passes.stays.trans (.proceeded next _), ?_⟩
      intro other present
      rcases mem_proceed present with within | idle | ⟨call, milliseconds, waits, rfl⟩
      · exact (perform_grows work).asksNothing other within
      · exact .inr (Strand.asked?_idle idle)
      · have silent := passes.silent
        rw [waits] at silent
        exact .inr silent

omit [CountingBench Bench] in
theorem Remains.transition (remains : Remains evolves before after) :
    Transition evolves before after := by
  cases remains with
  | request request => exact .request before request
  | advance strand member ready _ => exact .advance before strand member ready
  | wait later past => exact .wait before later past
  | passOn event passed =>
      have goesOn : event.isEnd = false := by
        cases event with
        | noticed _ _ | pump | closeInbox => rfl
        | reset | teardown | cancel | clearError | lost _ => cases passed
      exact .react before event goesOn
  | onBench change evolved => exact .onBench before change evolved
  | onHost host => exact .onHost before host
  | subscribe wallet => exact .subscribe before wallet
  | startPump => exact .startPump before
  | stopListening => exact .stopListening before
  | watchAccounts account => exact .watchAccounts before account
  | publishAccount store account => exact .publishAccount before store account
  | closeStore store => exact .closeStore before store
  | cancel => exact .cancel before
  | drop => exact .drop before

theorem passOn_stays {connection : Connection Bench} (unowned : connection.IsUnowned)
    {event : ConnectionEvent} (passed : event.isPassedOn = true) :
    connection.Stays (connection.react event) := by
  cases event with
  | noticed token notice =>
      rw [Connection.react, Connection.handleNotice_unowned unowned]
      exact .refl connection
  | pump => exact Connection.pump_stays unowned
  | closeInbox => exact .of_same rfl rfl rfl rfl
  | reset | teardown | cancel | clearError | lost _ => cases passed

theorem Remains.stays
    (creates : ∀ {earlier later}, evolves earlier later → CountingBench.evolves earlier later)
    (remains : Remains evolves before after) (silent : before.IsSilent) :
    before.Stays after ∧ before.AsksNothing after := by
  have same : before.AsksNothing before := fun _ member => .inl member
  cases remains with
  | request request => exact ⟨.spawned _, (Grows.spawned _).asksNothing⟩
  | advance strand member ready goesOn =>
      obtain ⟨stays, asksNothing⟩ := advance_stays silent member goesOn
      refine ⟨stays.trans (letGo_stays _), ?_⟩
      rw [AsksNothing, letGo_strands]
      exact asksNothing
  | wait later _ => exact ⟨.aside rfl rfl rfl, same⟩
  | passOn event passed => exact ⟨.through (passOn_stays silent.unowned passed), same⟩
  | onBench change evolved =>
      refine ⟨.through (.of_same ?_ ?_ ?_ ?_), same⟩
      · exact Connection.deliver_published _ _
      · rw [Connection.onBench, Connection.deliver_bench]
        exact creates evolved
      · exact Connection.deliver_cancelled _ _
      · exact Connection.deliver_session _ _
  | onHost host => exact ⟨.asked host, same⟩
  | subscribe wallet =>
      refine ⟨?_, (subscribe_edits wallet).grows.asksNothing⟩
      simp only [Provider.subscribe]
      split
      · exact .aside rfl rfl rfl
      · exact .asked _
  | startPump =>
      refine ⟨?_, startPump_grows.asksNothing⟩
      simp only [Provider.startPump]
      split
      · exact .refl before
      · exact .aside rfl rfl rfl
  | stopListening => exact ⟨.tracked rfl rfl, same⟩
  | watchAccounts account => exact ⟨.aside rfl rfl rfl, (watchAccounts_grows account).asksNothing⟩
  | publishAccount store account =>
      refine ⟨?_, (publishAccount_grows store account).asksNothing⟩
      simp only [Provider.publishAccount]
      split
      · exact .aside rfl rfl rfl
      · exact .refl before
  | closeStore store => exact ⟨.aside rfl rfl rfl, same⟩
  | cancel => exact ⟨before.cancel_stays, same⟩
  | drop =>
      have dropped : before.Stays { before with held := false } := .aside rfl rfl rfl
      refine ⟨dropped.trans (letGo_stays _), ?_⟩
      rw [AsksNothing, Provider.drop, letGo_strands]
      exact same

theorem IsSilent.of_stays (silent : before.IsSilent) (stays : before.Stays after)
    (asksNothing : before.AsksNothing after)
    (latest : before.permission.latest ≤ after.permission.latest) : after.IsSilent where
  unowned := stays.connection.unowned silent.unowned
  unwanted := by
    rcases silent.unwanted with ended | software
    · exact .inl (stays.connection.ended ended)
    · refine .inr ?_
      rw [wallet?, stays.account]
      exact software
  ignored := by
    intro strand member asked asks
    rcases asksNothing strand member with stood | nothing
    · rcases silent.ignored strand stood asked asks with ended | overtaken
      · exact .inl (stays.gate ended)
      · exact .inr (Nat.lt_of_lt_of_le overtaken latest)
    · rw [nothing] at asks
      cases asks

theorem IsSilent.stays (silent : before.IsSilent)
    (run : Relation.ReflTransGen (Remains CountingBench.evolves) before after) :
    before.Stays after ∧ after.IsSilent := by
  induction run with
  | refl => exact ⟨.refl before, silent⟩
  | tail _ remains ih =>
      obtain ⟨stays, still⟩ := ih
      obtain ⟨kept, asksNothing⟩ := remains.stays id still
      exact ⟨stays.trans kept, still.of_stays kept asksNothing remains.transition.ages.latest⟩

end Stays

end Provider

end SignerLink
