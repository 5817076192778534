import SignerLink.Proofs.Provider.Ended
import SignerLink.Proofs.Transport.Agreement
/-!
How a provider reaches the host once its session is over. It asks the host for nothing by itself,
but it still puts to it what it is asked outright, and what was chosen before is still paired when
it arrives.
-/

namespace SignerLink

/-- What the host keeps of the questions that reached it. -/
structure HostRecord where
  enumerations : Nat
  choosers : Nat
  responses : List ChooserResponse
  paired : List (Channel × Device)
  deriving DecidableEq

inductive HostContact where
  | enumeration
  | chooser
  | pairing (channel : Channel) (device : Device)
  deriving DecidableEq

namespace HostContact

def pairings (selection : Option (Channel × Device)) : List HostContact :=
  selection.toList.map fun chosen => .pairing chosen.1 chosen.2

def IsRepeat (record : HostRecord) (contact : HostContact) : Prop :=
  ∃ channel device, contact = .pairing channel device ∧ (channel, device) ∈ record.paired

end HostContact

namespace HostRecord

variable {record : HostRecord}

def contacted (record : HostRecord) : HostContact → HostRecord
  | .enumeration => { record with enumerations := record.enumerations + 1 }
  | .chooser =>
      { record with choosers := record.choosers + 1, responses := record.responses.tail }
  | .pairing channel device =>
      if record.paired.contains (channel, device) then record
      else { record with paired := record.paired ++ [(channel, device)] }

def after (record : HostRecord) (contacts : List HostContact) : HostRecord :=
  contacts.foldl contacted record

@[simp] theorem after_nil : record.after [] = record := rfl

theorem after_append (earlier later : List HostContact) :
    record.after (earlier ++ later) = (record.after earlier).after later := List.foldl_append

/-! Whether there was a contact can be told from the record. -/

def size (record : HostRecord) : Nat :=
  record.enumerations + record.choosers + record.paired.length

theorem contacted_of_repeat {contact : HostContact} (again : contact.IsRepeat record) :
    record.contacted contact = record := by
  obtain ⟨channel, device, rfl, known⟩ := again
  exact if_pos (List.contains_iff_mem.mpr known)

theorem size_contacted (record : HostRecord) (contact : HostContact) :
    contact.IsRepeat record ∨ record.size < (record.contacted contact).size := by
  cases contact with
  | enumeration =>
      right
      simp only [contacted, size]
      omega
  | chooser =>
      right
      simp only [contacted, size]
      omega
  | pairing channel device =>
      by_cases known : (channel, device) ∈ record.paired
      · exact .inl ⟨channel, device, rfl, known⟩
      · right
        simp [contacted, size, known]

theorem size_after (record : HostRecord) (contacts : List HostContact) :
    record.size ≤ (record.after contacts).size := by
  induction contacts generalizing record with
  | nil => exact Nat.le_refl _
  | cons contact rest ih =>
      have grown := ih (record.contacted contact)
      rcases record.size_contacted contact with again | larger
      · rw [contacted_of_repeat again] at grown
        rw [after, List.foldl_cons, contacted_of_repeat again]
        exact grown
      · exact (Nat.le_of_lt larger).trans grown

theorem after_eq_iff (record : HostRecord) (contacts : List HostContact) :
    record.after contacts = record ↔ ∀ contact ∈ contacts, contact.IsRepeat record := by
  induction contacts with
  | nil => simp
  | cons contact rest ih =>
      rw [List.forall_mem_cons, ← ih, after, List.foldl_cons]
      constructor
      · intro same
        rcases record.size_contacted contact with again | larger
        · rw [contacted_of_repeat again] at same
          exact ⟨again, same⟩
        -- What has made the record larger cannot be undone by what comes later.
        · have grown := (record.contacted contact).size_after rest
          rw [after, same] at grown
          omega
      · rintro ⟨again, same⟩
        rw [contacted_of_repeat again]
        exact same

end HostRecord

/-! What a question does to the host. -/

def HostQuestion.reaches (host : MemoryHost) : HostQuestion → Bool
  | .paired channel | .choose channel => host.isAvailable channel
  | .discover wallet | .matching wallet | .isAttached wallet _ | .check wallet | .request wallet =>
      wallet.isReachable host.isAvailable

def HostQuestion.contact : HostQuestion → HostContact
  | .choose _ | .request _ => .chooser
  | .paired _ | .discover _ | .matching _ | .isAttached _ _ | .check _ => .enumeration

namespace MemoryHost

variable {Answer : Type} {host : MemoryHost}

def record (host : MemoryHost) : HostRecord :=
  ⟨host.enumerations, host.choosers, host.responses, host.paired⟩

def Awaited.arriving (awaited : Awaited Answer) : List HostContact :=
  if awaited.delay = 0 then HostContact.pairings awaited.selection else []

def selected (host : MemoryHost) : HostQuestion → List HostContact
  | .choose channel => (host.choose channel).2.arriving
  | .request wallet => (host.request wallet).2.arriving
  | .paired _ | .discover _ | .matching _ | .isAttached _ _ | .check _ => []

def questioned (host : MemoryHost) (question : HostQuestion) : List HostContact :=
  (if question.reaches host then [question.contact] else []) ++ host.selected question

theorem deliver_record (selection : Option (Channel × Device)) :
    (host.deliver selection).record = host.record.after (HostContact.pairings selection) := by
  cases selection with
  | none => rfl
  | some chosen =>
      simp only [deliver, pair, HostContact.pairings, Option.toList_some, List.map_cons,
        List.map_nil, HostRecord.after, List.foldl_cons, List.foldl_nil, HostRecord.contacted,
        record]
      split <;> rfl

theorem receive_record (id : SubscriptionId) : (host.receive id).1.record = host.record := by
  simp only [receive]
  split <;> rfl

theorem enumerate_record (channel : Channel) :
    (host.enumerate channel).1.record =
      host.record.after (if host.isAvailable channel then [.enumeration] else []) := by
  simp only [enumerate]
  split <;> rfl

theorem choose_record (channel : Channel) :
    (host.choose channel).1.record =
      host.record.after (if host.isAvailable channel then [.chooser] else []) := by
  simp only [choose]
  split <;> rfl

theorem reach_cases (host : MemoryHost) (wallet : Wallet) :
    (∃ error, wallet.reach host.isAvailable = .error error ∧
      wallet.isReachable host.isAvailable = false) ∨
    ∃ channel, wallet.reach host.isAvailable = .ok channel ∧
      wallet.isReachable host.isAvailable = true ∧ host.isAvailable channel = true := by
  cases reached : wallet.reach host.isAvailable with
  | error error => exact .inl ⟨error, rfl, by rw [Wallet.isReachable, reached]; rfl⟩
  | ok channel =>
      exact .inr ⟨channel, rfl, by rw [Wallet.isReachable, reached]; rfl,
        (Wallet.reach_eq_ok_iff.mp reached).opened⟩

theorem inquire_record (wallet : Wallet) :
    (host.inquire wallet).1.record =
      host.record.after (if wallet.isReachable host.isAvailable then [.enumeration] else []) := by
  rcases host.reach_cases wallet with
    ⟨error, refused, closed⟩ | ⟨channel, reached, opened, available⟩
  · simp [inquire, refused, closed]
  · have asked := host.enumerate_record channel
    rw [available] at asked
    simp only [inquire, reached, opened]
    exact asked

theorem request_record (wallet : Wallet) :
    (host.request wallet).1.record =
      host.record.after (if wallet.isReachable host.isAvailable then [.chooser] else []) := by
  rcases host.reach_cases wallet with
    ⟨error, refused, closed⟩ | ⟨channel, reached, opened, available⟩
  · simp [request, refused, closed]
  · have asked := host.choose_record channel
    rw [available] at asked
    simp only [request, reached, opened]
    exact asked

theorem enumerate_selection (channel : Channel) :
    (host.enumerate channel).2.selection = none := by
  simp only [enumerate]
  split <;> rfl

theorem inquire_selection (wallet : Wallet) : (host.inquire wallet).2.selection = none := by
  simp only [inquire]
  split
  · rfl
  · exact enumerate_selection _

theorem Awaited.arriving_none {awaited : Awaited Answer} (nothing : awaited.selection = none) :
    awaited.arriving = [] := by
  rw [arriving, nothing]
  exact ite_self _

end MemoryHost

namespace Provider

variable {Bench : Type} {provider before after : Provider Bench}

/-! What work makes of the host. -/

theorem hostReply_record (question : HostQuestion) :
    (provider.hostReply question).1.host.record = provider.host.record.after
      (if question.reaches provider.host then [question.contact] else []) := by
  cases question with
  | paired channel => exact MemoryHost.enumerate_record channel
  | choose channel => exact MemoryHost.choose_record channel
  | request wallet => exact MemoryHost.request_record wallet
  | discover wallet | matching wallet | isAttached wallet _ | check wallet =>
      exact MemoryHost.inquire_record wallet

theorem hostReply_arriving (question : HostQuestion) :
    (provider.hostReply question).2.arriving = provider.host.selected question := by
  cases question with
  | choose _ | request _ => rfl
  | paired channel =>
      exact MemoryHost.Awaited.arriving_none (MemoryHost.enumerate_selection channel)
  | discover wallet | matching wallet | isAttached wallet _ | check wallet =>
      exact MemoryHost.Awaited.arriving_none (MemoryHost.inquire_selection wallet)

/-- The question that a request still puts to the host once the session is over. -/
def question? (provider : Provider Bench) : Request → Option HostQuestion
  | .askHost question => some question
  | .checkPermission wallet => (wallet <|> provider.wallet?).map .check
  | .requestPermission wallet => (wallet <|> provider.wallet?).map .request
  | .connect _ _ | .disconnect | .retry | .makeReady _ _ | .operate _ | .selectAccount _
  | .plugEvent _ | .shutdown | .sleep _ | .join _ => none

def contactsOf (provider : Provider Bench) : Work → List HostContact
  | .begin host request => (provider.question? request).elim [] host.questioned
  | .resume (.permission _ _ selection) | .resume (.host _ selection) =>
      HostContact.pairings selection
  | .resume _ | .evaluate _ _ => []

/-- What a strand's turn makes of the host once the session is over. -/
def contacts (provider : Provider Bench) (strand : Strand) : List HostContact :=
  (provider.work? strand).elim [] fun taken => provider.contactsOf taken.1

theorem work?_host {strand next : Strand} {host : MemoryHost} {request : Request}
    (takes : provider.work? strand = some (.begin host request, next)) :
    host.record = provider.host.record := by
  simp only [work?] at takes
  repeat' split at takes
  all_goals cases takes
  next => rfl
  next subscription _ _ _ _ received =>
    have same := provider.host.receive_record subscription
    rw [received] at same
    exact same
  next => rfl

theorem askHost_record (question : HostQuestion) :
    (provider.askHost question).1.host.record =
      provider.host.record.after (provider.host.questioned question) := by
  have asked := provider.hostReply_record question
  have arrives := provider.hostReply_arriving question
  rw [MemoryHost.questioned, HostRecord.after_append, ← asked, ← arrives,
    MemoryHost.Awaited.arriving]
  simp only [askHost]
  split
  next => exact MemoryHost.deliver_record _
  next => rfl

theorem checkPermission_host (wallet : Wallet) :
    (provider.checkPermission wallet).1.host = (provider.askHost (.check wallet)).1.host := by
  have nothing : (provider.host.inquire wallet).2.selection = none :=
    MemoryHost.inquire_selection wallet
  simp only [checkPermission, beginCheck, askHost, hostReply, MemoryHost.Awaited.map, nothing]
  by_cases atOnce : (provider.host.inquire wallet).2.delay = 0
  · simp only [atOnce, if_true]
    rfl
  · simp only [atOnce, if_false]
    rfl

theorem requestPermission_host (wallet : Wallet) :
    (provider.requestPermission wallet).1.host = (provider.askHost (.request wallet)).1.host := by
  simp only [requestPermission, askHost, hostReply, MemoryHost.Awaited.map]
  by_cases atOnce : (provider.host.request wallet).2.delay = 0
  · simp only [atOnce, if_true]
    rfl
  · simp only [atOnce, if_false]
    rfl

variable [AdapterBench Bench]

section Ended

variable (ended : provider.isCancelled = true)

include ended

theorem begin_record (request : Request) :
    (provider.begin request).1.host.record = provider.host.record.after
      ((provider.question? request).elim [] provider.host.questioned) := by
  cases request with
  | connect wallet deviceId =>
      rw [begin, connect_over ended]
      rfl
  | disconnect => rfl
  | retry =>
      simp only [begin, retry, makeReady_over ended]
      split <;> rfl
  | makeReady wallet deviceId =>
      simp only [begin, makeReady_over ended]
      split <;> rfl
  | operate operation => rfl
  | checkPermission wallet =>
      simp only [begin, question?]
      split
      next unknown =>
        rw [unknown]
        rfl
      next known =>
        rw [checkPermission_host, askHost_record, known]
        rfl
  | requestPermission wallet =>
      simp only [begin, question?]
      split
      next unknown =>
        rw [unknown]
        rfl
      next known =>
        rw [requestPermission_host, askHost_record, known]
        rfl
  | selectAccount account =>
      rw [begin, selectAccount_over ended]
      rfl
  | plugEvent event =>
      simp only [begin, plugEvent, ended, if_true]
      rfl
  | shutdown =>
      simp only [begin, shutdown, ended, if_true]
      rfl
  | askHost question => exact askHost_record question
  | sleep milliseconds =>
      simp only [begin, sleep]
      split <;> rfl
  | join strands =>
      simp only [begin, join]
      split <;> rfl

omit [AdapterBench Bench] in
theorem isCurrent_ended (epoch : Nat) : provider.isCurrent epoch = false := by
  simp [isCurrent, ended]

theorem evaluate_ended (epoch : Nat) (trigger : Trigger) :
    provider.evaluate epoch trigger = (provider, .finished .done) := by
  simp only [evaluate, eligible?_unwanted (.inl ended)]

theorem resume_record [CountingBench Bench] (call : Call) :
    (provider.resume call).1.host.record =
      provider.host.record.after (provider.contactsOf (.resume call)) := by
  have stale := isCurrent_ended ended
  cases call with
  | attempt call | readiness call | disconnect call | operation call => rfl
  | permission call reply selection => exact MemoryHost.deliver_record selection
  | host reply selection => exact MemoryHost.deliver_record selection
  | accountCheck epoch call =>
      have still : (provider.setPermission (provider.permission.commit call)).isCurrent epoch =
          false := stale epoch
      simp only [resume, accountChecked, still, Bool.false_eq_true, if_false]
      rfl
  | attachCheck epoch deviceId call =>
      have still : (provider.setPermission (provider.permission.commit call)).isCurrent epoch =
          false := stale epoch
      simp only [resume, attachChecked, still, Bool.false_and, Bool.false_eq_true, if_false]
      rfl
  | search epoch found =>
      simp only [resume, searched, stale, Bool.false_eq_true, if_false]
      rfl
  | autoConnect epoch account trigger call =>
      have interrupted := Connection.resumeAttempt_interrupted (.inl ended) call
      simp only [resume, interrupted, followAttempt, settle_interrupted]
      rfl
  | joining strands reply =>
      simp only [resume, join]
      split <;> rfl

theorem perform_record [CountingBench Bench] (work : Work) {strand next : Strand}
    (takes : provider.work? strand = some (work, next)) :
    (provider.perform work).1.host.record =
      provider.host.record.after (provider.contactsOf work) := by
  cases work with
  | begin host request =>
      have asked : (provider.setHost host).isCancelled = true := ended
      rw [← work?_host takes]
      exact begin_record asked request
  | resume call => exact resume_record ended call
  | evaluate epoch trigger =>
      rw [perform, evaluate_ended ended]
      rfl

theorem advance_record [CountingBench Bench] (strand : Strand) :
    (provider.advance strand).host.record =
      provider.host.record.after (provider.contacts strand) := by
  cases takes : provider.work? strand with
  | none =>
      rw [contacts, takes]
      obtain ⟨subscriptions, connection, _, rests | ends⟩ := advance_of_none takes
      · rw [rests]
        rfl
      · rw [ends]
        rfl
  | some taken =>
      obtain ⟨work, next⟩ := taken
      rw [contacts, takes, advance_of_work takes, proceed_host]
      exact perform_record ended work takes

end Ended

/-! Runs. -/

theorem letGo_host : provider.letGo.host = provider.host := by
  simp only [letGo]
  split
  next => rfl
  next => split <;> split <;> rfl

/-- What happens beside the turns of strands. The host may change, but not what it has recorded. -/
inductive Aside : Provider Bench → Provider Bench → Prop where
  | request (provider : Provider Bench) (request : Request) :
      Aside provider (provider.spawn (.caller request)).1
  | wait (provider : Provider Bench) (later : Nat) : Aside provider { provider with now := later }
  | react (provider : Provider Bench) (event : ConnectionEvent) :
      event.isEnd = false →
      Aside provider (provider.setConnection (provider.connection.react event))
  | onBench (provider : Provider Bench) (change : Bench → Bench × List Signal) :
      Aside provider (provider.setConnection (provider.connection.onBench change))
  | onHost (provider : Provider Bench) (host : MemoryHost) :
      host.record = provider.host.record → Aside provider (provider.setHost host)
  | subscribe (provider : Provider Bench) (wallet : Wallet) :
      Aside provider (provider.subscribe wallet).1
  | resetPermission (provider : Provider Bench) :
      Aside provider (provider.setPermission provider.permission.reset)
  | startPump (provider : Provider Bench) : Aside provider provider.startPump.1
  | stopListening (provider : Provider Bench) : Aside provider provider.stopListening
  | watchAccounts (provider : Provider Bench) (account : Account) :
      Aside provider (provider.watchAccounts account).1
  | publishAccount (provider : Provider Bench) (store : Nat) (account : Account) :
      Aside provider (provider.publishAccount store account)
  | closeStore (provider : Provider Bench) (store : Nat) :
      Aside provider (provider.closeStore store)
  | cancel (provider : Provider Bench) : Aside provider provider.cancel
  | drop (provider : Provider Bench) : Aside provider provider.drop

/-- Every transition is one of these, the turn of a strand, or a change of the host from outside. -/
theorem Transition.aside {evolves : Bench → Bench → Prop}
    (transition : Transition evolves before after) :
    Aside before after ∨
      (∃ strand ∈ before.strands, before.canMove strand = true ∧
        after = (before.advance strand).letGo) ∨
      ∃ host, after = before.setHost host := by
  cases transition with
  | advance strand member ready => exact .inr (.inl ⟨strand, member, ready, rfl⟩)
  | onHost host => exact .inr (.inr ⟨host, rfl⟩)
  | request request => exact .inl (.request before request)
  | wait later _ => exact .inl (.wait before later)
  | react event goesOn => exact .inl (.react before event goesOn)
  | onBench change _ => exact .inl (.onBench before change)
  | subscribe wallet => exact .inl (.subscribe before wallet)
  | resetPermission => exact .inl (.resetPermission before)
  | startPump => exact .inl (.startPump before)
  | stopListening => exact .inl (.stopListening before)
  | watchAccounts account => exact .inl (.watchAccounts before account)
  | publishAccount store account => exact .inl (.publishAccount before store account)
  | closeStore store => exact .inl (.closeStore before store)
  | cancel => exact .inl (.cancel before)
  | drop => exact .inl (.drop before)

variable [CountingBench Bench]

theorem Aside.kept (aside : Aside before after) (isOver : before.IsOver) :
    after.IsOver ∧ after.host.record = before.host.record := by
  have ⟨session, gate⟩ := isOver
  cases aside with
  | onHost host same => exact ⟨⟨session, gate⟩, same⟩
  | react event goesOn =>
      exact ⟨⟨(Connection.react_cancelled goesOn).trans session, gate⟩, rfl⟩
  | onBench change => exact ⟨⟨(Connection.deliver_cancelled _ _).trans session, gate⟩, rfl⟩
  | resetPermission => exact ⟨⟨session, (PermissionGate.reset_cancelled _).trans gate⟩, rfl⟩
  | subscribe wallet =>
      simp only [Provider.subscribe]
      split <;> exact ⟨⟨session, gate⟩, rfl⟩
  | startPump =>
      simp only [Provider.startPump]
      split <;> exact ⟨⟨session, gate⟩, rfl⟩
  | publishAccount store account =>
      simp only [Provider.publishAccount]
      split <;> exact ⟨⟨session, gate⟩, rfl⟩
  | drop =>
      have released : ({ before with held := false } : Provider Bench).IsOver := ⟨session, gate⟩
      exact ⟨released.of_stays (letGo_stays _), congrArg MemoryHost.record letGo_host⟩
  | cancel => exact ⟨⟨rfl, rfl⟩, rfl⟩
  | request _ | wait _ | stopListening | watchAccounts _ | closeStore _ =>
      exact ⟨⟨session, gate⟩, rfl⟩

/-- A run from the first provider, whose session is over, with what it has made of the host on the
way. -/
inductive Contacted (first : Provider Bench) : List HostContact → Provider Bench → Prop where
  | start : Contacted first [] first
  | turn {made : List HostContact} {before : Provider Bench} {strand : Strand} :
      Contacted first made before → strand ∈ before.strands → before.canMove strand = true →
      Contacted first (made ++ before.contacts strand) (before.advance strand).letGo
  | aside {made : List HostContact} {before after : Provider Bench} :
      Contacted first made before → Aside before after → Contacted first made after

theorem Contacted.record {first later : Provider Bench} {made : List HostContact}
    (isOver : first.IsOver) (contacted : Contacted first made later) :
    later.IsOver ∧ later.host.record = first.host.record.after made := by
  induction contacted with
  | start => exact ⟨isOver, rfl⟩
  | turn _ _ _ ih =>
      obtain ⟨still, same⟩ := ih
      constructor
      · exact still.of_stays ((still.advance_stays _).trans (letGo_stays _))
      · rw [letGo_host, advance_record still.session, HostRecord.after_append, same]
  | aside _ aside ih =>
      obtain ⟨still, same⟩ := ih
      obtain ⟨later, kept⟩ := aside.kept still
      exact ⟨later, kept.trans same⟩

omit [CountingBench Bench] in
theorem Contacted.begun {first : Provider Bench} {made : List HostContact}
    (contacted : Contacted first made before) (request : Request) :
    Contacted first (made ++ (before.asking request).contacts (before.asker request))
      (before.begun request) := by
  have member : before.asker request ∈ (before.asking request).strands :=
    List.mem_append_right _ (List.mem_singleton_self _)
  exact .turn (.aside contacted (.request before request)) member rfl

/-- Once a provider has shut down, its host's records tell exactly of the questions that were
still put to it and of the selections that arrived; they stay as they are just as long as all that
came of these was to pair devices that were paired already. -/
theorem host_untouched_after_shutdown_iff {first later : Provider Bench}
    {made : List HostContact} (fresh : first.IsFresh)
    (run : Relation.ReflTransGen (Transition fun _ _ => True) first provider)
    (ended : provider.isCancelled = true) (contacted : Contacted provider made later) :
    later.host.record = provider.host.record.after made ∧
      (later.host.record = provider.host.record ↔
        ∀ contact ∈ made, contact.IsRepeat provider.host.record) := by
  have isOver := (fresh.orderly_run run).isOver ended
  obtain ⟨_, same⟩ := contacted.record isOver
  refine ⟨same, ?_⟩
  rw [same]
  exact HostRecord.after_eq_iff _ made

def nano : Device := { vendorId := 0x2c97, productId := 1 }

def selectedAtShutdown : Provider SimulatedBench :=
  (((ofBench {}).setHost { responses := [.select nano], latency := 5 }).begun
    (.requestPermission (some .ledger))).begun .shutdown

def openChooser : Strand where
  id := 0
  duty := .caller (.requestPermission (some .ledger))
  call := some (.permission ⟨1, .granted⟩ (.answered true) (some (.webHid, nano)), 5)

def selectedAfterShutdown : Provider SimulatedBench :=
  ({ selectedAtShutdown.begun (.checkPermission (some .ledger)) with now := 5 }.advance
    openChooser).letGo

theorem host_untouched_after_shutdown_iff_selected :
    selectedAfterShutdown.host.record =
      selectedAtShutdown.host.record.after [.enumeration, .pairing .webHid nano] ∧
    selectedAfterShutdown.host.record ≠ selectedAtShutdown.host.record := by
  have run : Relation.ReflTransGen (Transition fun _ _ => True) (ofBench {})
      selectedAtShutdown :=
    .trans (.single (.onHost _ { responses := [.select nano], latency := 5 }))
      ((begun_run _ _).trans (begun_run _ _))
  have checked : Contacted selectedAtShutdown [.enumeration]
      (selectedAtShutdown.begun (.checkPermission (some .ledger))) :=
    .begun .start (.checkPermission (some .ledger))
  have waits : openChooser ∈
      (selectedAtShutdown.begun (.checkPermission (some .ledger))).strands := .head _
  have paired : Contacted selectedAtShutdown [.enumeration, .pairing .webHid nano]
      selectedAfterShutdown := .turn (.aside checked (.wait _ 5)) waits rfl
  obtain ⟨same, untouched⟩ :=
    host_untouched_after_shutdown_iff (ofBench_isFresh {}) run rfl paired
  refine ⟨same, ?_⟩
  intro unchanged
  obtain ⟨_, _, other, _⟩ := untouched.mp unchanged .enumeration (.head _)
  cases other

def inLedger : Account := ⟨some "Ledger Hardware", some "0x1"⟩

def onLedger : Provider SimulatedBench :=
  ((ofBench {}).setHost { responses := [.select nano] }).begun (.selectAccount inLedger)

def afterShutdown : Provider SimulatedBench :=
  ((((onLedger.begun .shutdown).advance { id := 2, duty := .listener 0 }).letGo).advance
    { id := 3, duty := .caller .shutdown, call := some (.joining [2] .done, 0) }).letGo

theorem host_asked_after_shutdown :
    ∃ first : Provider SimulatedBench, first.IsFresh ∧
      Relation.ReflTransGen (Transition fun _ _ => True) first afterShutdown ∧
      afterShutdown.isCancelled = true ∧ (3, .done) ∈ afterShutdown.replies ∧
      Contacted afterShutdown [.enumeration, .chooser, .pairing .webHid nano]
        ((afterShutdown.begun (.checkPermission none)).begun (.requestPermission none)) ∧
      afterShutdown.host.record = ⟨1, 0, [.select nano], []⟩ ∧
      ((afterShutdown.begun (.checkPermission none)).begun
        (.requestPermission none)).host.record = ⟨2, 1, [], [(.webHid, nano)]⟩ := by
  have began : Relation.ReflTransGen (Transition fun _ _ => True) (ofBench {})
      (onLedger.begun .shutdown) :=
    .trans (.single (.onHost _ { responses := [.select nano] }))
      ((begun_run _ _).trans (begun_run _ _))
  have listened := began.tail (.advance _ { id := 2, duty := .listener 0 } (.tail _ (.head _)) rfl)
  have returned := listened.tail (.advance _
    { id := 3, duty := .caller .shutdown, call := some (.joining [2] .done, 0) }
    (.tail _ (.head _)) rfl)
  have asked : Contacted afterShutdown [.enumeration, .chooser, .pairing .webHid nano]
      ((afterShutdown.begun (.checkPermission none)).begun (.requestPermission none)) :=
    .begun (.begun .start (.checkPermission none)) (.requestPermission none)
  exact ⟨ofBench {}, ofBench_isFresh {}, returned, rfl, .tail _ (.head _), asked, rfl, rfl⟩

end Provider

end SignerLink
