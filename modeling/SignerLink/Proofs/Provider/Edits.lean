import SignerLink.Proofs.Permission.LatestCall
import SignerLink.Proofs.Provider.Run
import SignerLink.Proofs.Provider.Turn
import SignerLink.Proofs.Transport.Forwarding
/-!
What work is made of. Whatever a strand takes up, it changes a provider by small edits of a few
kinds; only the selection of an account does something else first. What the kinds of edits keep
that a piece of work makes, the work keeps.
-/

namespace SignerLink

inductive EditKind where
  | host
  | subscription
  | forwarder
  | listener
  | dismissal
  | permission
  | request
  | reaction
  | count
  | retry
  | ending
  deriving DecidableEq

def Call.isPlain : Call → Bool
  | .attempt _ | .readiness _ | .disconnect _ | .operation _ | .host _ _ | .joining _ _ => true
  | .permission _ _ _ | .accountCheck _ _ | .attachCheck _ _ _ | .search _ _
  | .autoConnect _ _ _ _ => false

def Request.isErrand : Request → Bool
  | .connect _ _ | .disconnect | .retry | .makeReady _ _ | .operate _ | .askHost _ | .sleep _
  | .join _ => true
  | .checkPermission _ | .requestPermission _ | .selectAccount _ | .plugEvent _ | .shutdown => false

namespace Provider

variable {Bench : Type} [AdapterBench Bench]

inductive Edit : EditKind → Provider Bench → Provider Bench → Prop where
  | ask (provider : Provider Bench) (host : MemoryHost) :
      host.subscriptions = provider.host.subscriptions →
      Edit .host provider (provider.setHost host)
  | subscribe (provider : Provider Bench) (wallet : Wallet) :
      Edit .subscription provider (provider.setHost (provider.host.subscribe wallet).1)
  | forward (provider : Provider Bench) (id : SubscriptionId) :
      Edit .forwarder provider (provider.spawn (.forwarder id)).1
  | listen (provider : Provider Bench) (id : SubscriptionId) :
      Edit .listener provider (provider.spawn (.listener id)).1
  | record (provider : Provider Bench) (listener : Listener) :
      Edit .listener provider
        (provider.setTracking { provider.tracking with listener := some listener })
  | dismiss (provider : Provider Bench) : Edit .dismissal provider provider.stopListening
  | permit (provider : Provider Bench) (permission : PermissionGate) :
      provider.permission.latest ≤ permission.latest →
      permission.cancelled = provider.permission.cancelled →
      Edit .permission provider (provider.setPermission permission)
  | begin (provider : Provider Bench) (request : ConnectionRequest) :
      Edit .request provider (provider.setConnection (provider.connection.begin request).1)
  | resume (provider : Provider Bench) (call : ConnectionCall) :
      Edit .request provider (provider.setConnection (provider.connection.resume call).1)
  | react (provider : Provider Bench) (event : ConnectionEvent) : event.isEnd = false →
      Edit .reaction provider (provider.setConnection (provider.connection.react event))
  | count (provider : Provider Bench) (completedFor : Option Account) (retries : Nat) :
      Edit .count provider (provider.setTracking
        { provider.tracking with completedFor := completedFor, retries := retries })
  | putOff (provider : Provider Bench) (epoch : Nat) (trigger : Trigger) (due : Nat) :
      Edit .retry provider (provider.spawn (.retry epoch trigger due)).1
  | cancel (provider : Provider Bench) : Edit .ending provider provider.cancel
  | tearDown (provider : Provider Bench) : provider.isCancelled = true →
      Edit .ending provider (provider.setConnection provider.connection.teardown)

def Edits (kinds : List EditKind) (before after : Provider Bench) : Prop :=
  Relation.ReflTransGen (fun earlier later => ∃ kind ∈ kinds, Edit kind earlier later) before after

variable {before middle after provider : Provider Bench} {kind : EditKind}
  {kinds few more : List EditKind} {result : Provider Bench × Step}

namespace Edits

theorem refl : provider.Edits kinds provider := Relation.ReflTransGen.refl

theorem one (edit : Edit kind before after) (member : kind ∈ kinds) : before.Edits kinds after :=
  Relation.ReflTransGen.single ⟨kind, member, edit⟩

theorem trans (first : before.Edits kinds middle) (rest : middle.Edits kinds after) :
    before.Edits kinds after := Relation.ReflTransGen.trans first rest

theorem mono (edits : before.Edits few after) (within : few ⊆ more) : before.Edits more after :=
  Relation.ReflTransGen.mono (fun _ _ ⟨kind, member, edit⟩ => ⟨kind, within member, edit⟩) _ _ edits

theorem ite {condition : Prop} [Decidable condition] {yes no : Provider Bench × Step}
    (first : before.Edits kinds yes.1) (second : before.Edits kinds no.1) :
    before.Edits kinds (if condition then yes else no).1 := by
  split
  · exact first
  · exact second

/-- What each edit keeps, any number of them keep. -/
theorem keeps (Keeps : Provider Bench → Provider Bench → Prop)
    (refl : ∀ provider, Keeps provider provider)
    (trans : ∀ {before middle after}, Keeps before middle → Keeps middle after →
      Keeps before after)
    (kept : ∀ kind ∈ kinds, ∀ {before after}, Edit kind before after → Keeps before after)
    (edits : before.Edits kinds after) : Keeps before after := by
  unfold Edits at edits
  induction edits with
  | refl => exact refl before
  | tail _ step ih =>
      obtain ⟨kind, member, edit⟩ := step
      exact trans ih (kept kind member edit)

theorem connection (edits : before.Edits kinds after) (unasked : .request ∉ kinds)
    (unmoved : .reaction ∉ kinds) (goesOn : .ending ∉ kinds) :
    after.connection = before.connection := by
  refine edits.keeps (fun before after => after.connection = before.connection) (fun _ => rfl)
    (fun first rest => rest.trans first) fun kind member _ _ edit => ?_
  cases edit with
  | begin _ _ | resume _ _ => exact absurd member unasked
  | react _ _ _ => exact absurd member unmoved
  | cancel _ | tearDown _ _ => exact absurd member goesOn
  | _ => rfl

theorem host (edits : before.Edits kinds after) (unasked : .host ∉ kinds)
    (apart : .subscription ∉ kinds) : after.host = before.host := by
  refine edits.keeps (fun before after => after.host = before.host) (fun _ => rfl)
    (fun first rest => rest.trans first) fun kind member _ _ edit => ?_
  cases edit with
  | ask _ _ _ => exact absurd member unasked
  | subscribe _ _ => exact absurd member apart
  | _ => rfl

end Edits

/-! Errands. -/

def Step.IsPlain (step : Step) : Prop :=
  ∀ call milliseconds, step = .waiting call milliseconds → call.isPlain = true

theorem Step.isPlain_finished (reply : Reply) : Step.IsPlain (.finished reply) := by
  intro _ _ waits
  cases waits

theorem Step.isPlain_waiting {call : Call} (plain : call.isPlain = true) (milliseconds : Nat) :
    Step.IsPlain (.waiting call milliseconds) := by
  intro waiting _ same
  cases same
  exact plain

theorem Step.isPlain_map {Waiting Outcome : Type} (progress : Progress Waiting Outcome)
    {call : Waiting → Call} {reply : Outcome → Reply}
    (plain : ∀ waiting, (call waiting).isPlain = true) :
    Step.IsPlain (progress.map call reply) := by
  cases progress with
  | waiting waiting milliseconds => exact isPlain_waiting (plain waiting) milliseconds
  | finished outcome => exact isPlain_finished _

theorem onConnection_map {Waiting Outcome : Type} {call : Waiting → Call} {reply : Outcome → Reply}
    {wrap : Waiting → ConnectionCall} {report : Outcome → ConnectionReply}
    (progress : Progress Waiting Outcome)
    (same : ∀ waiting, (call waiting).onConnection = {wrap waiting}) :
    Step.onConnection (progress.map call reply) = (progress.map wrap report).calls := by
  cases progress with
  | waiting waiting milliseconds => exact same waiting
  | finished outcome => rfl

/-- The host is asked, and then perhaps the connection. Nothing else is waited for. -/
inductive Errand : Provider Bench → Multiset ConnectionCall → Provider Bench × Step → Prop where
  | host {provider : Provider Bench} {host : MemoryHost} {step : Step} :
      host.subscriptions = provider.host.subscriptions → step.IsPlain → step.onConnection = 0 →
      Errand provider 0 (provider.setHost host, step)
  | begin {provider : Provider Bench} {host : MemoryHost} {step : Step}
      (request : ConnectionRequest) :
      host.subscriptions = provider.host.subscriptions → step.IsPlain →
      step.onConnection = (provider.connection.begin request).2.calls →
      Errand provider 0
        ((provider.setHost host).setConnection (provider.connection.begin request).1, step)
  | resume {provider : Provider Bench} {step : Step} (call : ConnectionCall) : step.IsPlain →
      step.onConnection = (provider.connection.resume call).2.calls →
      Errand provider {call} (provider.setConnection (provider.connection.resume call).1, step)

namespace Errand

variable {taken : Multiset ConnectionCall}

theorem plain (errand : Errand provider taken result) : result.2.IsPlain := by
  cases errand with
  | host _ plain _ | begin _ _ plain _ | resume _ plain _ => exact plain

theorem edits (errand : Errand provider taken result) :
    provider.Edits [.host, .request] result.1 := by
  cases errand with
  | host same _ _ => exact .one (.ask _ _ same) (by decide)
  | begin request same _ _ =>
      refine .trans (.one (.ask _ _ same) (by decide)) (.one (.begin _ request) (by decide))
  | resume call _ _ => exact .one (.resume _ call) (by decide)

theorem still {step : Step} (plain : step.IsPlain) (free : step.onConnection = 0) :
    Errand provider 0 (provider, step) := by
  have asked : Errand provider 0 (provider.setHost provider.host, step) := .host rfl plain free
  exact asked

theorem finished (reply : Reply) : Errand provider 0 (provider, .finished reply) :=
  still (Step.isPlain_finished reply) rfl

theorem begun {step : Step} (request : ConnectionRequest) (plain : step.IsPlain)
    (calls : step.onConnection = (provider.connection.begin request).2.calls) :
    Errand provider 0 (provider.setConnection (provider.connection.begin request).1, step) := by
  have asked : Errand provider 0 ((provider.setHost provider.host).setConnection
      (provider.connection.begin request).1, step) := .begin request rfl plain calls
  exact asked

end Errand

omit [AdapterBench Bench] in
theorem target_eq (provider : Provider Bench) (wallet : Wallet) (deviceId : Option String) :
    ∃ host found milliseconds, host.subscriptions = provider.host.subscriptions ∧
      provider.target wallet deviceId =
        (provider.setHost host, .wanted deviceId found milliseconds) := by
  cases deviceId with
  | some id => exact ⟨provider.host, .ok none, 0, rfl, rfl⟩
  | none => exact ⟨_, _, _, MemoryHost.inquire_subscriptions wallet, rfl⟩

theorem connect_errand (wallet : Wallet) (deviceId : Option String) :
    Errand provider 0 (provider.connect wallet deviceId) := by
  simp only [connect]
  split
  next => exact .finished _
  next =>
    obtain ⟨host, found, milliseconds, asked, same⟩ := target_eq provider wallet deviceId
    rw [same]
    exact .begin (.connect wallet (.wanted deviceId found milliseconds)) asked
      (Step.isPlain_map _ fun _ => rfl) (onConnection_map _ fun _ => rfl)

theorem makeReady_errand (wallet : Wallet) (wanted : Option String) :
    Errand provider 0 (provider.makeReady wallet wanted) := by
  have errand (host : MemoryHost) (found : DeviceSearch) (milliseconds : Nat)
      (asked : host.subscriptions = provider.host.subscriptions) :
      Errand provider 0
        ((provider.setHost host).setConnection
          (provider.connection.makeReady wallet wanted found milliseconds).1,
        (provider.connection.makeReady wallet wanted found milliseconds).2.map .readiness
          .answered) :=
    .begin (.makeReady wallet wanted found milliseconds) asked
      (Step.isPlain_map _ fun _ => rfl) (onConnection_map _ fun _ => rfl)
  cases ready : provider.connection.readiness wallet wanted with
  | refused =>
      simp only [makeReady, ready]
      exact .finished _
  | held token deviceId adapter =>
      have verifies := errand provider.host (.ok none) 0 rfl
      simp only [Connection.makeReady, ready] at verifies
      simp only [makeReady, ready]
      exact verifies
  | wanting deviceId =>
      obtain ⟨host, found, milliseconds, asked, same⟩ := target_eq provider wallet deviceId
      have connects := errand host found milliseconds asked
      simp only [Connection.makeReady, ready] at connects
      simp only [makeReady, ready, same]
      exact connects

theorem retry_errand : Errand provider 0 provider.retry := by
  simp only [retry]
  split
  next => exact .finished _
  next => exact makeReady_errand _ _

theorem askHost_errand (question : HostQuestion) :
    Errand provider 0 (provider.askHost question) := by
  obtain ⟨host, asked, same⟩ : ∃ host, host.subscriptions = provider.host.subscriptions ∧
      (provider.hostReply question).1 = provider.setHost host := by
    cases question with
    | paired channel => exact ⟨_, MemoryHost.enumerate_subscriptions channel, rfl⟩
    | choose channel => exact ⟨_, MemoryHost.choose_subscriptions channel, rfl⟩
    | request wallet => exact ⟨_, MemoryHost.request_subscriptions wallet, rfl⟩
    | discover wallet | matching wallet | isAttached wallet _ | check wallet =>
        exact ⟨_, MemoryHost.inquire_subscriptions wallet, rfl⟩
  simp only [askHost, same]
  split
  next =>
    exact .host ((MemoryHost.deliver_subscriptions _).trans asked) (Step.isPlain_finished _) rfl
  next => exact .host asked (Step.isPlain_waiting rfl _) rfl

theorem join_errand (strands : List StrandId) (reply : Reply) :
    Errand provider 0 (provider.join strands reply) := by
  simp only [join]
  split
  next => exact .still (Step.isPlain_waiting rfl _) rfl
  next => exact .finished reply

theorem sleep_errand (milliseconds : Nat) : Errand provider 0 (provider.sleep milliseconds) := by
  simp only [sleep]
  split
  next => exact .finished _
  next => exact .still (Step.isPlain_waiting rfl _) rfl

theorem begin_errand {request : Request} (errand : request.isErrand = true) :
    Errand provider 0 (provider.begin request) := by
  cases request with
  | connect wallet deviceId => exact connect_errand wallet deviceId
  | disconnect =>
      exact .begun .disconnect (Step.isPlain_map _ fun _ => rfl) (onConnection_map _ fun _ => rfl)
  | retry => exact retry_errand
  | operate operation =>
      exact .begun (.operate operation) (Step.isPlain_map _ fun _ => rfl)
        (onConnection_map _ fun _ => rfl)
  | askHost question => exact askHost_errand question
  | sleep milliseconds => exact sleep_errand milliseconds
  | join strands => exact join_errand strands _
  | makeReady wallet deviceId =>
      simp only [begin]
      split
      next => exact .finished _
      next wallet _ => exact makeReady_errand wallet deviceId
  | checkPermission _ | requestPermission _ | selectAccount _ | plugEvent _ | shutdown =>
      cases errand

theorem resume_errand {call : Call} (plain : call.isPlain = true) :
    Errand provider call.onConnection (provider.resume call) := by
  cases call with
  | attempt call =>
      exact .resume (.attempt call) (Step.isPlain_map _ fun _ => rfl)
        (onConnection_map _ fun _ => rfl)
  | readiness call =>
      exact .resume (.readiness call) (Step.isPlain_map _ fun _ => rfl)
        (onConnection_map _ fun _ => rfl)
  | disconnect call =>
      exact .resume (.disconnect call) (Step.isPlain_map _ fun _ => rfl) rfl
  | operation call =>
      exact .resume (.operation call) (Step.isPlain_map _ fun _ => rfl)
        (onConnection_map _ fun _ => rfl)
  | host reply selection =>
      exact .host (MemoryHost.deliver_subscriptions selection) (Step.isPlain_finished reply) rfl
  | joining strands reply => exact join_errand strands reply
  | permission _ _ _ | accountCheck _ _ | attachCheck _ _ _ | search _ _ | autoConnect _ _ _ _ =>
      cases plain

/-! Listening. -/

theorem subscribe_edits (wallet : Wallet) :
    provider.Edits [.subscription, .forwarder] (provider.subscribe wallet).1 := by
  have asked : provider.Edits [.subscription, .forwarder]
      (provider.setHost (provider.host.subscribe wallet).1) :=
    .one (.subscribe _ wallet) (by decide)
  simp only [subscribe]
  split
  next => exact asked.trans (.one (.forward _ _) (by decide))
  next => exact asked

theorem listen_edits (wallet : Wallet) :
    provider.Edits [.dismissal, .subscription, .forwarder, .listener] (provider.listen wallet) := by
  simp only [listen]
  split
  next => exact .refl
  next =>
    have stopped : provider.Edits [.dismissal, .subscription, .forwarder, .listener]
        provider.stopListening := .one (.dismiss _) (by decide)
    have subscribed := stopped.trans ((subscribe_edits wallet).mono (by decide))
    split
    next =>
      exact (subscribed.trans (.one (.listen _ _) (by decide))).trans
        (.one (.record _ _) (by decide))
    next => exact subscribed

/-! Connecting without being asked. -/

theorem settle_edits (epoch : Nat) (account : Account) (trigger : Trigger)
    (outcome : ConnectOutcome) :
    provider.Edits [.count, .retry] (provider.settle epoch account trigger outcome) := by
  simp only [settle]
  split
  next => exact .refl
  next =>
    split
    next => exact .one (.count _ _ _) (by decide)
    next =>
      split
      next => exact .refl
      next =>
        exact .trans (.one (.count _ provider.tracking.completedFor _) (by decide))
          (.one (.putOff _ _ _ _) (by decide))
    next => exact .refl
    next => exact .refl

def attempting : List EditKind := [.request, .count, .retry]

def evaluating : List EditKind := .host :: attempting

theorem followAttempt_edits (epoch : Nat) (account : Account) (trigger : Trigger)
    (progress : Connection.AttemptProgress) :
    provider.Edits attempting (provider.followAttempt epoch account trigger progress).1 := by
  cases progress with
  | waiting call milliseconds => exact .refl
  | finished outcome => exact (settle_edits epoch account trigger outcome).mono (by decide)

theorem autoConnect_edits (epoch : Nat) (trigger : Trigger) (deviceId : String) :
    provider.Edits attempting (provider.autoConnect epoch trigger deviceId).1 := by
  simp only [autoConnect]
  split
  next => exact .refl
  next wallet account _ =>
    exact .trans (.one (.begin _ (.connect wallet (.device deviceId))) (by decide))
      (followAttempt_edits _ _ _ _)

theorem searched_edits (epoch : Nat) (found : DeviceSearch) :
    provider.Edits attempting (provider.searched epoch found).1 := by
  simp only [searched]
  split
  next =>
    split
    next => exact autoConnect_edits _ _ _
    next => exact .refl
  next => exact .refl

theorem evaluate_edits (epoch : Nat) (trigger : Trigger) :
    provider.Edits evaluating (provider.evaluate epoch trigger).1 := by
  simp only [evaluate]
  split
  next => exact .refl
  next wallet _ _ =>
    split
    next => exact (autoConnect_edits _ _ _).mono (by decide)
    next =>
      have asked : provider.Edits evaluating (provider.setHost (provider.host.inquire wallet).1) :=
        .one (.ask _ _ (MemoryHost.inquire_subscriptions wallet)) (by decide)
      exact .ite (asked.trans ((searched_edits _ _).mono (by decide))) asked

/-! Permission. -/

def permitting : List EditKind := [.host, .permission]

theorem commit_edits (call : PermissionCall) :
    provider.Edits [.permission] (provider.setPermission (provider.permission.commit call)) :=
  .one (.permit _ _ (by simp) (by simp)) (by decide)

theorem beginCheck_edits (wallet : Wallet) :
    provider.Edits permitting (provider.beginCheck wallet).1 :=
  .trans (.one (.ask _ _ (MemoryHost.inquire_subscriptions wallet)) (by decide))
    (.one (.permit _ _ (Nat.le_succ _) rfl) (by decide))

theorem permissionAnswered_edits (call : PermissionCall) (reply : Reply)
    (selection : Option (Channel × Device)) :
    provider.Edits permitting (provider.permissionAnswered call reply selection).1 :=
  .trans (.one (.ask _ _ (MemoryHost.deliver_subscriptions selection)) (by decide))
    ((commit_edits call).mono (by decide))

theorem checkPermission_edits (wallet : Wallet) :
    provider.Edits permitting (provider.checkPermission wallet).1 := by
  have checked : provider.Edits permitting (provider.beginCheck wallet).1 := beginCheck_edits wallet
  exact .ite (checked.trans (permissionAnswered_edits _ _ _)) checked

theorem requestPermission_edits (wallet : Wallet) :
    provider.Edits permitting (provider.requestPermission wallet).1 := by
  have asked : provider.Edits permitting ((provider.setHost
      (provider.host.request wallet).1).setPermission (provider.permission.begin
        (.ofGrant ((provider.host.request wallet).2.answer.isGrant wallet))).1) :=
    .trans (.one (.ask _ _ (MemoryHost.request_subscriptions wallet)) (by decide))
      (.one (.permit _ _ (Nat.le_succ _) rfl) (by decide))
  exact .ite (asked.trans (permissionAnswered_edits _ _ _)) asked

/-! Account selections and plug events. -/

def ordinary : List EditKind := [.host, .request, .count, .retry, .permission, .reaction]

theorem accountChecked_edits (epoch : Nat) (call : PermissionCall) :
    provider.Edits ordinary (provider.accountChecked epoch call).1 := by
  have committed : provider.Edits ordinary
      (provider.setPermission (provider.permission.commit call)) :=
    (commit_edits call).mono (by decide)
  exact .ite (committed.trans ((evaluate_edits _ _).mono (by decide))) committed

theorem attachChecked_edits (epoch : Nat) (deviceId : String) (call : PermissionCall) :
    provider.Edits ordinary (provider.attachChecked epoch deviceId call).1 := by
  have committed : provider.Edits ordinary
      (provider.setPermission (provider.permission.commit call)) :=
    (commit_edits call).mono (by decide)
  have restarted := committed.trans (.one (.count _ provider.tracking.completedFor 0) (by decide))
  exact .ite (restarted.trans ((evaluate_edits _ _).mono (by decide))) committed

theorem reset_edits :
    provider.Edits [.permission] (provider.setPermission provider.permission.reset) :=
  .one (.permit _ _ (by simp) (by simp)) (by decide)

theorem release_edits :
    provider.Edits [.dismissal, .count, .reaction, .permission] provider.release := by
  have stopped : provider.Edits [.dismissal, .count, .reaction, .permission]
      provider.stopListening := .one (.dismiss _) (by decide)
  have forgotten := stopped.trans (.one (.count _ none provider.tracking.retries) (by decide))
  have dropped := forgotten.trans (.one (.react _ .reset rfl) (by decide))
  exact dropped.trans (reset_edits.mono (by decide))

theorem turnTo_edits (wallet : Wallet) :
    provider.Edits [.reaction, .dismissal, .subscription, .forwarder, .listener]
      (provider.turnTo wallet) := by
  have listens {provider : Provider Bench} :
      provider.Edits [.reaction, .dismissal, .subscription, .forwarder, .listener]
        (provider.listen wallet) := (listen_edits wallet).mono (by decide)
  simp only [turnTo]
  split
  next => exact .trans (.one (.react _ .reset rfl) (by decide)) listens
  next => exact listens

theorem detached_edits (device : Device) :
    provider.Edits [.reaction] (provider.plugEvent (.detached device)).1 := by
  simp only [plugEvent]
  split
  next => exact .refl
  next =>
    split
    next => exact .refl
    next => exact .ite (.one (.react _ (.lost none) rfl) (by decide)) .refl

theorem plugEvent_edits (event : PlugEvent) :
    provider.Edits ordinary (provider.plugEvent event).1 := by
  cases event with
  | detached device => exact (detached_edits device).mono (by decide)
  | attached device =>
      simp only [plugEvent]
      split
      next => exact .refl
      next =>
        split
        next => exact .refl
        next wallet _ =>
          have checked : provider.Edits ordinary (provider.beginCheck wallet).1 :=
            (beginCheck_edits wallet).mono (by decide)
          exact .ite .refl (.ite (checked.trans (attachChecked_edits _ _ _)) checked)

theorem selectAccount_idle {account : Account}
    (idle : ¬(provider.isCancelled = false ∧ provider.tracking.account ≠ account)) :
    provider.selectAccount account = (provider, .finished .done) :=
  if_pos (by simpa [or_iff_not_imp_left] using idle)

theorem selectAccount_edits {account : Account} {wallet : Wallet}
    (live : provider.isCancelled = false) (other : provider.tracking.account ≠ account)
    (hardware : account.wallet? = some wallet) :
    ((provider.track account).turnTo wallet).Edits ordinary (provider.selectAccount account).1 := by
  have begins : (provider.isCancelled || provider.tracking.account == account) = false := by
    simp [live, other]
  simp only [selectAccount, begins, Bool.false_eq_true, if_false, hardware]
  have checked : ((provider.track account).turnTo wallet).Edits ordinary
      (((provider.track account).turnTo wallet).beginCheck wallet).1 :=
    (beginCheck_edits wallet).mono (by decide)
  exact .ite (checked.trans (accountChecked_edits _ _)) checked

/-! The end of the session. -/

theorem shutdown_edits : provider.Edits [.ending, .dismissal, .host, .request]
    provider.shutdown.1 := by
  simp only [shutdown]
  split
  next => exact .refl
  next =>
    have ended : provider.Edits [.ending, .dismissal, .host, .request] provider.cancel :=
      .one (.cancel _) (by decide)
    have stopped := ended.trans (.one (.dismiss _) (by decide))
    have down := stopped.trans (.one (.tearDown _ rfl) (by decide))
    exact down.trans ((join_errand _ _).edits.mono (by decide))

theorem letGo_edits : provider.Edits [.ending, .reaction] provider.letGo := by
  have closed {provider : Provider Bench} : provider.Edits [.ending, .reaction]
      (if provider.isConnectionKept then provider
      else provider.setConnection provider.connection.closeInbox) := by
    split
    next => exact .refl
    next => exact .one (.react _ .closeInbox rfl) (by decide)
  have ended : provider.Edits [.ending, .reaction] provider.cancel := .one (.cancel _) (by decide)
  simp only [letGo]
  split
  next => exact .refl
  next =>
    split
    next => exact (ended.trans (.one (.tearDown _ rfl) (by decide))).trans closed
    next => exact closed

/-! Requests and calls. -/

theorem resume_edits (call : Call) : provider.Edits ordinary (provider.resume call).1 := by
  cases call with
  | autoConnect epoch account trigger call =>
      exact .trans (.one (.resume _ (.attempt call)) (by decide))
        ((followAttempt_edits epoch account trigger _).mono (by decide))
  | permission call reply selection =>
      exact (permissionAnswered_edits call reply selection).mono (by decide)
  | accountCheck epoch call => exact accountChecked_edits epoch call
  | attachCheck epoch deviceId call => exact attachChecked_edits epoch deviceId call
  | search epoch found => exact (searched_edits epoch found).mono (by decide)
  | _ => exact (resume_errand rfl).edits.mono (by decide)

def facing (provider : Provider Bench) : Work → Provider Bench
  | .begin host _ => provider.setHost host
  | .resume _ | .evaluate _ _ => provider

inductive WorkDone (before after : Provider Bench) : Prop where
  | edits : before.Edits (.ending :: .dismissal :: ordinary) after → WorkDone before after
  | turnTo (account : Account) (wallet : Wallet) : account.wallet? = some wallet →
      ((before.track account).turnTo wallet).Edits ordinary after → WorkDone before after
  | release (account : Account) : after = (before.track account).release → WorkDone before after

theorem selectAccount_done (account : Account) :
    provider.WorkDone (provider.selectAccount account).1 := by
  by_cases begins : provider.isCancelled = false ∧ provider.tracking.account ≠ account
  · cases owner : account.wallet? with
    | some wallet =>
        exact .turnTo account wallet owner (selectAccount_edits begins.1 begins.2 owner)
    | none =>
        refine .release account ?_
        simp [selectAccount, begins.1, begins.2, owner]
  · rw [selectAccount_idle begins]
    exact .edits .refl

theorem begin_done (request : Request) : provider.WorkDone (provider.begin request).1 := by
  cases request with
  | selectAccount account => exact selectAccount_done account
  | plugEvent event => exact .edits ((plugEvent_edits event).mono (by decide))
  | shutdown => exact .edits (shutdown_edits.mono (by decide))
  | checkPermission wallet =>
      simp only [begin]
      split
      next => exact .edits .refl
      next wallet _ => exact .edits ((checkPermission_edits wallet).mono (by decide))
  | requestPermission wallet =>
      simp only [begin]
      split
      next => exact .edits .refl
      next wallet _ => exact .edits ((requestPermission_edits wallet).mono (by decide))
  | _ => exact .edits ((begin_errand rfl).edits.mono (by decide))

theorem perform_done (work : Work) : (provider.facing work).WorkDone (provider.perform work).1 := by
  cases work with
  | begin host request => exact begin_done request
  | resume call => exact .edits ((resume_edits call).mono (by decide))
  | evaluate epoch trigger => exact .edits ((evaluate_edits epoch trigger).mono (by decide))

end Provider

end SignerLink
