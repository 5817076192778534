import SignerLink.Proofs.Provider.Retrying
import SignerLink.Proofs.Provider.Steady
/-!
For which account a connect that nobody asked for has succeeded. The provider remembers the last
such account so as not to connect for it again; it forgets it for an account that is kept in
software, but not when it turns to another wallet, although that resets the connection as well.
-/

namespace SignerLink

/-- What bears on the account that has had its connect. -/
inductive Milestone where
  /-- A connect that nobody asked for has succeeded for the selected account. -/
  | connected (account : Account)
  /-- The connection was reset for an account that is kept in software. -/
  | released
  /-- The connection was reset for an account of another wallet. -/
  | turned
  deriving DecidableEq, Repr

def Milestone.leaves? : Milestone → Option (Option Account)
  | .connected account => some (some account)
  | .released => some none
  | .turned => none

/-- What the last milestone that matters has left. -/
def remembered? (history : List Milestone) : Option (Option Account) :=
  history.reverse.findSome? Milestone.leaves?

theorem remembered?_append (earlier later : List Milestone) :
    remembered? (earlier ++ later) = (remembered? later).or (remembered? earlier) := by
  simp only [remembered?, List.reverse_append, List.findSome?_append]

theorem remembered?_connected_iff {history : List Milestone} {account : Account} :
    remembered? history = some (some account) ↔
      ∃ earlier later, history = earlier ++ .connected account :: later ∧
        ∀ milestone ∈ later, milestone = .turned := by
  have turned {milestone : Milestone} : milestone.leaves? = none ↔ milestone = .turned := by
    cases milestone <;> simp [Milestone.leaves?]
  have connected {milestone : Milestone} :
      milestone.leaves? = some (some account) ↔ milestone = .connected account := by
    cases milestone <;> simp [Milestone.leaves?]
  simp only [remembered?, List.findSome?_eq_some_iff, turned, connected]
  constructor
  · rintro ⟨later, milestone, earlier, same, rfl, nothing⟩
    refine ⟨earlier.reverse, later.reverse, ?_, fun other member => ?_⟩
    · rw [← List.reverse_reverse history, same]
      simp
    · exact nothing other (List.mem_reverse.mp member)
  · rintro ⟨earlier, later, rfl, nothing⟩
    refine ⟨later.reverse, _, earlier.reverse, by simp, rfl, fun other member => ?_⟩
    exact nothing other (List.mem_reverse.mp member)

namespace Provider

variable {Bench : Type} [AdapterBench Bench]

/-! Milestones. -/

def settled (provider : Provider Bench) (epoch : Nat) (progress : Connection.AttemptProgress) :
    List Milestone :=
  match progress with
  | .finished .connected =>
      if provider.tracking.epoch = epoch then [.connected provider.tracking.account] else []
  | _ => []

def resets (provider : Provider Bench) (account : Account) : List Milestone :=
  if provider.isCancelled || provider.tracking.account == account then []
  else
    match account.wallet? with
    | none => [.released]
    | some wallet =>
        if provider.connection.session.wallet.any (· != wallet) then [.turned] else []

def reached (provider : Provider Bench) : Work → List Milestone
  | .begin _ (.selectAccount account) => provider.resets account
  | .resume (.autoConnect epoch _ _ call) =>
      provider.settled epoch (provider.connection.resumeAttempt call).2
  | _ => []

def performed (provider : Provider Bench) (work : Work) : List Milestone :=
  provider.reached work ++
    ((provider.course work).launch?.elim [] fun launch =>
      launch.instant.settled launch.epoch launch.attempt.2)

def milestones (provider : Provider Bench) (strand : Strand) : List Milestone :=
  (provider.work? strand).elim [] fun taken => provider.performed taken.1

/-- These are all the milestones of a provider that was set up with none, in their order. -/
inductive Recalls (evolves : Bench → Bench → Prop) : List Milestone → Provider Bench → Prop where
  | start (first : Provider Bench) : first.IsNew → first.tracking.completedFor = none →
      Recalls evolves [] first
  | turn (history : List Milestone) (before : Provider Bench) (strand : Strand) :
      Recalls evolves history before → strand ∈ before.strands →
      before.canMove strand = true →
      Recalls evolves (history ++ before.milestones strand) (before.advance strand).letGo
  | aside (history : List Milestone) (before after : Provider Bench) :
      Recalls evolves history before → Transition evolves before after →
      (∀ strand ∈ before.strands, before.canMove strand = true →
        after ≠ (before.advance strand).letGo) →
      Recalls evolves history after

variable {evolves : Bench → Bench → Prop} {before after provider : Provider Bench}
  {strand : Strand} {work : Work} {epoch : Nat}

/-! Work that may connect. -/

theorem turnTo_resets {account : Account} {wallet : Wallet} (live : provider.isCancelled = false)
    (other : account ≠ provider.tracking.account) (named : account.wallet? = some wallet) :
    ((provider.track account).turnTo wallet).connection =
      if provider.resets account = [.turned] then provider.connection.reset
      else provider.connection := by
  have changed : (provider.tracking.account == account) = false :=
    beq_eq_false_iff_ne.mpr (Ne.symm other)
  have session : (provider.track account).connection = provider.connection := rfl
  simp only [turnTo, listen_connection, resets, live, changed, named, session, Bool.or_false,
    Bool.false_eq_true, if_false]
  cases provider.connection.session.wallet.any (· != wallet) <;> rfl

def Step.connecting? : Step → Option (Nat × Account)
  | .waiting (.autoConnect epoch account _ _) _ => some (epoch, account)
  | _ => none

omit [AdapterBench Bench] in
theorem Step.connecting?_of_silent {step : Step} (silent : step.pursued? = none) :
    step.connecting? = none := by
  cases step with
  | finished reply => rfl
  | waiting call milliseconds =>
      cases call with
      | autoConnect _ _ _ _ => cases silent
      | _ => rfl

end Provider

/-- Up to where the course may connect, this is the account that has had its connect. -/
def Course.Leaves {Bench : Type} (completed : Option Account) : Course Bench → Prop
  | .elsewhere result =>
      result.1.tracking.completedFor = completed ∧ result.2.connecting? = none
  | .evaluation instant _ _ | .answer instant _ _ => instant.tracking.completedFor = completed

namespace Provider

variable {Bench : Type} [AdapterBench Bench] {evolves : Bench → Bench → Prop}
  {before after provider : Provider Bench} {strand : Strand} {work : Work} {epoch : Nat}

omit [AdapterBench Bench] in
theorem accountCheckedCourse_leaves (epoch : Nat) (call : PermissionCall) :
    (provider.accountCheckedCourse epoch call).Leaves provider.tracking.completedFor := by
  simp only [accountCheckedCourse]
  split
  · exact rfl
  · exact ⟨rfl, rfl⟩

omit [AdapterBench Bench] in
theorem attachCheckedCourse_leaves (epoch : Nat) (deviceId : String) (call : PermissionCall) :
    (provider.attachCheckedCourse epoch deviceId call).Leaves
      provider.tracking.completedFor := by
  simp only [attachCheckedCourse]
  split
  · exact rfl
  · exact ⟨rfl, rfl⟩

theorem selectAccountCourse_leaves (account : Account) :
    (provider.selectAccountCourse account).Leaves
      ((remembered? (provider.resets account)).getD provider.tracking.completedFor) := by
  simp only [selectAccountCourse, resets]
  split
  next => exact ⟨rfl, rfl⟩
  next =>
    cases account.wallet? with
    | none => exact ⟨rfl, rfl⟩
    | some wallet =>
        -- Turning to the wallet leaves nothing, whether or not it resets the connection.
        have nothing : remembered?
            (if provider.connection.session.wallet.any (· != wallet) then [Milestone.turned]
            else []) = none := by
          split <;> rfl
        have turned : (((provider.track account).turnTo wallet).beginCheck
            wallet).1.tracking.completedFor = provider.tracking.completedFor :=
          ((turnTo_steady wallet).trans (beginCheck_steady wallet)).completedFor
        rw [nothing, Option.getD_none, ← turned]
        simp only
        split
        next => exact accountCheckedCourse_leaves _ _
        next => exact ⟨rfl, rfl⟩

theorem plugEventCourse_leaves (event : PlugEvent) :
    (provider.plugEventCourse event).Leaves provider.tracking.completedFor := by
  simp only [plugEventCourse]
  split
  next => exact ⟨rfl, rfl⟩
  next =>
    split
    next => exact ⟨rfl, rfl⟩
    next wallet _ =>
      split
      next device =>
        exact ⟨(detached_pursuesNothing device).steady.completedFor,
          Step.connecting?_of_silent (detached_pursuesNothing device).silent⟩
      next device =>
        split
        next => exact ⟨rfl, rfl⟩
        next =>
          split
          next => exact attachCheckedCourse_leaves _ _ _
          next => exact ⟨rfl, rfl⟩

theorem course_leaves (plain : work.pursued? = none) :
    (provider.course work).Leaves
      ((remembered? (provider.reached work)).getD provider.tracking.completedFor) := by
  cases work with
  | evaluate _ _ => exact rfl
  | begin host request =>
      have other (notSelection : ∀ account, request ≠ .selectAccount account)
          (notEvent : ∀ event, request ≠ .plugEvent event) :
          (Course.elsewhere ((provider.setHost host).begin request)).Leaves
            provider.tracking.completedFor :=
        ⟨(begin_pursuesNothing notSelection notEvent).steady.completedFor,
          Step.connecting?_of_silent (begin_pursuesNothing notSelection notEvent).silent⟩
      cases request with
      | selectAccount account =>
          exact (provider.setHost host).selectAccountCourse_leaves account
      | plugEvent event => exact (provider.setHost host).plugEventCourse_leaves event
      | _ => exact other (by simp) (by simp)
  | resume call =>
      cases call with
      | autoConnect _ _ _ _ => cases plain
      | accountCheck epoch call => exact accountCheckedCourse_leaves epoch call
      | attachCheck epoch deviceId call => exact attachCheckedCourse_leaves epoch deviceId call
      | search epoch found => exact rfl
      | _ =>
          exact ⟨(resume_pursuesNothing rfl).steady.completedFor,
            Step.connecting?_of_silent (resume_pursuesNothing rfl).silent⟩

/-! Work. -/

omit [AdapterBench Bench] in
theorem followAttempt_completedFor {account : Account}
    (tracked : provider.tracking.epoch = epoch → provider.tracking.account = account)
    (trigger : Trigger) (progress : Connection.AttemptProgress) :
    (provider.followAttempt epoch account trigger progress).1.tracking.completedFor =
      (remembered? (provider.settled epoch progress)).getD provider.tracking.completedFor := by
  cases progress with
  | waiting _ _ => rfl
  | finished outcome =>
      by_cases current : provider.tracking.epoch = epoch
      · cases outcome with
        | connected =>
            simp only [followAttempt, settle, settled, current, tracked current, ne_eq,
              not_true_eq_false, if_false, if_true]
            rfl
        | failed error =>
            simp only [followAttempt, settle, settled, current, ne_eq, not_true_eq_false, if_false]
            split <;> rfl
        | superseded | aborted =>
            simp only [followAttempt, settle, settled, current, ne_eq, not_true_eq_false, if_false]
            rfl
      · cases outcome <;>
          simp only [followAttempt, settle, settled, ne_eq, current, not_false_eq_true, if_true,
            if_false] <;> rfl

theorem launch_leaves {course : Course Bench} {launch : Launch Bench} {completed : Option Account}
    (leaves : course.Leaves completed) (launched : course.launch? = some launch) :
    launch.IsAllowed ∧ launch.instant.tracking.completedFor = completed := by
  cases course with
  | elsewhere _ => cases launched
  | evaluation start selection trigger =>
      obtain ⟨host, instant⟩ := evaluateLaunch_instant launched
      refine ⟨(of_evaluateLaunch launched).1, ?_⟩
      rw [instant]
      exact leaves
  | answer start selection found =>
      obtain ⟨allowed, instant, _⟩ := of_searchedLaunch launched
      exact ⟨allowed, instant ▸ leaves⟩

theorem result_of_still {course : Course Bench} {completed : Option Account}
    (leaves : course.Leaves completed) (still : course.launch? = none) :
    course.result.1.tracking.completedFor = completed ∧ course.result.2.connecting? = none := by
  cases course with
  | elsewhere _ => exact leaves
  | evaluation start selection trigger =>
      obtain ⟨host, step, same, ends⟩ := evaluate_of_none still
      simp only [Course.result, same]
      rcases ends with rfl | ⟨_, _, rfl⟩
      · exact ⟨leaves, rfl⟩
      · exact ⟨leaves, rfl⟩
  | answer start selection found =>
      have same : start.searched selection found = (start, .finished .done) :=
        searched_of_none still
      simp only [Course.result, same]
      exact ⟨leaves, rfl⟩

theorem result_completedFor {course : Course Bench} {completed : Option Account}
    (leaves : course.Leaves completed) :
    course.result.1.tracking.completedFor =
      (remembered? (course.launch?.elim [] fun launch =>
        launch.instant.settled launch.epoch launch.attempt.2)).getD completed := by
  cases launched : course.launch? with
  | none => exact (result_of_still leaves launched).1
  | some launch =>
      obtain ⟨allowed, same⟩ := launch_leaves leaves launched
      have tracked : (launch.instant.setConnection launch.attempt.1).tracking.epoch =
          launch.epoch →
          (launch.instant.setConnection launch.attempt.1).tracking.account = launch.account :=
        fun _ => allowed.account
      have connect := followAttempt_completedFor tracked launch.trigger launch.attempt.2
      rw [result_of_launch launched, ← same]
      exact connect

theorem perform_completedFor
    (tracked : ∀ epoch account trigger call,
      work = .resume (.autoConnect epoch account trigger call) →
        provider.tracking.epoch = epoch → provider.tracking.account = account) :
    (provider.perform work).1.tracking.completedFor =
      (remembered? (provider.performed work)).getD provider.tracking.completedFor := by
  cases pursued : work.pursued? with
  | none =>
      rw [perform_eq, result_completedFor (course_leaves pursued), performed, remembered?_append]
      exact Option.getD_or.symm
  | some selection =>
      obtain ⟨account, trigger, call, rfl⟩ := Work.attempt_of_pursued pursued
      let gone := provider.setConnection (provider.connection.resumeAttempt call).1
      have counts : gone.tracking.epoch = selection → gone.tracking.account = account :=
        tracked selection account trigger call rfl
      have connect := followAttempt_completedFor counts trigger
        (provider.connection.resumeAttempt call).2
      rw [performed, remembered?_append]
      exact connect

omit [AdapterBench Bench] in
theorem followAttempt_connecting {selection : Nat} {account other : Account} {trigger : Trigger}
    {progress : Connection.AttemptProgress}
    (waits : (provider.followAttempt selection other trigger progress).2.connecting? =
      some (epoch, account)) :
    selection = epoch ∧ other = account ∧
      (provider.followAttempt selection other trigger progress).1 = provider := by
  cases progress with
  | finished outcome => cases waits
  | waiting call milliseconds =>
      cases waits
      exact ⟨rfl, rfl, rfl⟩

theorem perform_connecting {account : Account}
    (waits : (provider.perform work).2.connecting? = some (epoch, account)) :
    (∃ trigger call, work = .resume (.autoConnect epoch account trigger call)) ∨
      (provider.perform work).1.tracking.epoch = epoch ∧
        (provider.perform work).1.tracking.account = account := by
  cases pursued : work.pursued? with
  | some selection =>
      obtain ⟨other, trigger, call, rfl⟩ := Work.attempt_of_pursued pursued
      obtain ⟨rfl, rfl, _⟩ := followAttempt_connecting waits
      exact .inl ⟨trigger, call, rfl⟩
  | none =>
      have leaves := provider.course_leaves pursued
      rw [perform_eq] at waits ⊢
      cases launched : (provider.course work).launch? with
      | none =>
          rw [(result_of_still leaves launched).2] at waits
          cases waits
      | some launch =>
          obtain ⟨allowed, _⟩ := launch_leaves leaves launched
          rw [result_of_launch launched] at waits ⊢
          obtain ⟨rfl, rfl, same⟩ := followAttempt_connecting waits
          refine .inr ?_
          have stays : launch.result.1 = launch.instant.setConnection launch.attempt.1 := same
          rw [stays]
          exact ⟨allowed.epoch, allowed.account⟩

/-! Transitions. -/

def IsFaithful (provider : Provider Bench) : Prop :=
  ∀ strand ∈ provider.strands, ∀ epoch account trigger call due,
    strand.call = some (.autoConnect epoch account trigger call, due) →
      provider.tracking.epoch = epoch → provider.tracking.account = account

theorem Transition.isFaithful (transition : Transition evolves before after)
    (timely : before.IsTimely) (faithful : before.IsFaithful) : after.IsFaithful := by
  intro strand member epoch account trigger call due waits current
  have ages := transition.ages
  -- A selection that counts after the transition and had a connect before it counted before it.
  have stood {former : Strand} (present : former ∈ before.strands) {trigger : Trigger}
      {call : AttemptCall} {due : Nat}
      (waited : former.call = some (.autoConnect epoch account trigger call, due)) :
      after.tracking.account = account := by
    have past : epoch ≤ before.tracking.epoch :=
      timely.pursued former present epoch (Strand.pursued?_waiting waited)
    have same : before.tracking.epoch = epoch := Nat.le_antisymm (current ▸ ages.epoch) past
    rw [ages.account (current.trans same.symm)]
    exact faithful former present epoch account trigger call due waited same
  rcases transition.stands member with
    present | idle | ⟨former, next, work, waiting, milliseconds, later, present, _, moved, takes,
      ends, rfl⟩
  · exact stood present waits
  · rw [idle] at waits
    cases waits
  · cases waits
    have connecting : (before.perform work).2.connecting? = some (epoch, account) := by
      rw [ends]
      rfl
    rcases perform_connecting connecting with ⟨trigger, call, rfl⟩ | ⟨_, tracked⟩
    · obtain ⟨due, waited⟩ := call_of_resume takes
      exact stood present waited
    · rw [moved, letGo_tracking, advance_of_work takes, proceed_tracking]
      exact tracked

theorem Reachable.isFaithful (reachable : provider.Reachable evolves) : provider.IsFaithful := by
  obtain ⟨first, new, transitions⟩ := reachable
  induction transitions with
  | refl =>
      intro strand member
      rw [new.strands] at member
      cases member
  | tail run transition ih => exact transition.isFaithful (Reachable.isTimely ⟨first, new, run⟩) ih

theorem advance_completedFor (faithful : provider.IsFaithful) (member : strand ∈ provider.strands) :
    (provider.advance strand).tracking.completedFor =
      (remembered? (provider.milestones strand)).getD provider.tracking.completedFor := by
  cases takes : provider.work? strand with
  | none =>
      rw [(advance_of_idle takes).tracking, milestones, takes]
      rfl
  | some taken =>
      obtain ⟨work, next⟩ := taken
      rw [advance_of_work takes, proceed_tracking, milestones, takes]
      refine perform_completedFor ?_
      rintro epoch account trigger call rfl
      obtain ⟨due, waits⟩ := call_of_resume takes
      exact faithful strand member epoch account trigger call due waits

/-! Histories. -/

theorem Recalls.reachable {history : List Milestone} (recalls : Recalls evolves history provider) :
    provider.Reachable evolves := by
  induction recalls with
  | start first new _ => exact ⟨first, new, .refl⟩
  | turn history before strand _ member ready ih =>
      exact ih.tail (.advance before strand member ready)
  | aside history before after _ transition _ ih => exact ih.tail transition

theorem Recalls.completedFor {history : List Milestone}
    (recalls : Recalls evolves history provider) :
    provider.tracking.completedFor = (remembered? history).getD none := by
  induction recalls with
  | start first _ nothing => exact nothing
  | turn history before strand recalls member _ ih =>
      rw [letGo_tracking, advance_completedFor recalls.reachable.isFaithful member, ih,
        remembered?_append]
      exact Option.getD_or.symm
  | aside history before after _ transition noTurn ih =>
      rcases transition.steady with ⟨strand, member, ready, same⟩ | ⟨_, steady⟩
      · exact absurd same (noTurn strand member ready)
      · exact steady.completedFor.trans ih

theorem exists_recalls {first : Provider Bench} (new : first.IsNew)
    (fresh : first.tracking.completedFor = none)
    (run : Relation.ReflTransGen (Transition evolves) first provider) :
    ∃ history, Recalls evolves history provider := by
  induction run with
  | refl => exact ⟨[], .start first new fresh⟩
  | @tail before after _ transition ih =>
      obtain ⟨history, recalls⟩ := ih
      by_cases turn : ∃ strand ∈ before.strands, before.canMove strand = true ∧
          after = (before.advance strand).letGo
      · obtain ⟨strand, member, ready, rfl⟩ := turn
        exact ⟨_, .turn history before strand recalls member ready⟩
      · refine ⟨history, .aside history before after recalls transition ?_⟩
        exact fun strand member ready same => turn ⟨strand, member, ready, same⟩

theorem asker_not_mem (distinct : provider.Distinct) (member : strand ∈ provider.strands)
    (request : Request) : provider.asker request ∉ (provider.advance strand).letGo.strands := by
  intro within
  rw [letGo_strands] at within
  have new {other : Strand} (stands : other ∈ provider.strands) :
      (provider.asker request).id ≠ other.id := (distinct.below other stands).ne'
  cases takes : provider.work? strand with
  | none => exact new ((advance_of_idle takes).strands _ within) rfl
  | some taken =>
      obtain ⟨work, next⟩ := taken
      have named : next.id = strand.id := work?_id takes
      cases advance_inLineAfter takes within with
      | bystander stood _ => exact new stood rfl
      | offshoot offshoot _ => cases offshoot.kind
      | rests _ same | waits _ _ _ _ same =>
          exact new member ((congrArg Strand.id same).trans named)

theorem Recalls.begun {history : List Milestone} (recalls : Recalls evolves history provider)
    (request : Request) :
    Recalls evolves (history ++ (provider.asking request).milestones (provider.asker request))
      (provider.begun request) := by
  have stands : provider.asker request ∈ (provider.asking request).strands :=
    List.mem_append_right _ (List.mem_singleton_self _)
  refine .turn history _ _ (.aside history provider _ recalls (.request provider request) ?_)
    stands rfl
  intro strand member _ same
  exact asker_not_mem recalls.reachable.run.1 member request (same ▸ stands)

/-- Nothing but an earlier success is in the way of a connect for the selected account. -/
structure IsReceptive (provider : Provider Bench) : Prop where
  enabled : provider.policy.enabled = true
  live : provider.isCancelled = false
  hardware : provider.wallet?.isSome = true
  granted : provider.permission.state = .granted
  free : provider.connection.isBusy = false

theorem IsReceptive.eligible?_eq_none_iff (receptive : provider.IsReceptive) :
    provider.eligible? provider.tracking.epoch .accountChanged = none ↔
      provider.tracking.completedFor = some provider.tracking.account := by
  obtain ⟨wallet, named⟩ := Option.isSome_iff_exists.mp receptive.hardware
  have matched : provider.tracking.account.wallet? = some wallet := named
  simp [eligible?, receptive.enabled, receptive.live, receptive.granted, receptive.free, matched]

/-- An account counts as connected exactly if it was the last for which a connect that nobody asked
for succeeded, and no account kept in software was selected since; other wallets may have been. The
account then gets no such connect for being selected, with the connection reset or not. -/
theorem completion_outlives_turns {first : Provider Bench} (new : first.IsNew)
    (fresh : first.tracking.completedFor = none)
    (run : Relation.ReflTransGen (Transition evolves) first provider) :
    (∃ history, Recalls evolves history provider) ∧
    ∀ history, Recalls evolves history provider →
      (∀ account, provider.tracking.completedFor = some account ↔
        ∃ earlier later, history = earlier ++ .connected account :: later ∧
          ∀ milestone ∈ later, milestone = .turned) ∧
      (∀ account, provider.tracking.completedFor = some account →
        ((∃ earlier, history = earlier ++ [.connected account]) ↔
          history.getLast? ≠ some .turned)) ∧
      (provider.IsReceptive →
        (provider.eligible? provider.tracking.epoch .accountChanged = none ↔
          ∃ earlier later,
            history = earlier ++ .connected provider.tracking.account :: later ∧
              ∀ milestone ∈ later, milestone = .turned)) := by
  refine ⟨exists_recalls new fresh run, fun history recalls => ?_⟩
  have counts (account : Account) : provider.tracking.completedFor = some account ↔
      ∃ earlier later, history = earlier ++ .connected account :: later ∧
        ∀ milestone ∈ later, milestone = .turned := by
    rw [recalls.completedFor, ← remembered?_connected_iff]
    cases remembered? history <;> simp
  refine ⟨counts, fun account completed => ?_, fun receptive => ?_⟩
  · obtain ⟨earlier, later, rfl, turned⟩ := (counts account).mp completed
    constructor
    · rintro ⟨before, same⟩ ends
      rw [same, List.getLast?_concat] at ends
      cases ends
    · intro other
      rcases List.eq_nil_or_concat later with rfl | ⟨others, last, rfl⟩
      · exact ⟨earlier, rfl⟩
      · refine absurd ?_ other
        rw [turned last (by simp), List.concat_eq_append, ← List.cons_append,
          ← List.append_assoc]
        exact List.getLast?_concat
  · rw [receptive.eligible?_eq_none_iff, counts]

def autoConnected : Provider SimulatedBench :=
  pairedOnce.begun (.selectAccount (.ofWallet .ledger "0x1"))

theorem autoConnected_recalls :
    Recalls (fun _ _ => True) [.connected (.ofWallet .ledger "0x1")] autoConnected :=
  Recalls.begun (.start pairedOnce ⟨rfl, rfl⟩ rfl) (.selectAccount (.ofWallet .ledger "0x1"))

theorem completion_outlives_turns_autoConnected :
    autoConnected.tracking.completedFor = some (.ofWallet .ledger "0x1") := by
  have run : Relation.ReflTransGen (Transition fun _ _ => True) pairedOnce autoConnected :=
    begun_run _ _
  obtain ⟨_, decides⟩ := completion_outlives_turns ⟨rfl, rfl⟩ rfl run
  obtain ⟨counts, _⟩ := decides _ autoConnected_recalls
  exact (counts _).mpr ⟨[], [], rfl, by simp⟩

/-- An account of another wallet has been selected, and then the first one again. -/
def returned : Provider SimulatedBench :=
  (autoConnected.begun (.selectAccount (.ofWallet .trezor "0x2"))).begun
    (.selectAccount (.ofWallet .ledger "0x1"))

theorem returned_is_not_connected :
    Recalls (fun _ _ => True) [.connected (.ofWallet .ledger "0x1"), .turned] returned ∧
    returned.tracking.completedFor = some (.ofWallet .ledger "0x1") ∧
    returned.tracking.account = .ofWallet .ledger "0x1" ∧
    returned.connection.state = .disconnected ∧ returned.IsReceptive ∧
    returned.eligible? returned.tracking.epoch .accountChanged = none := by
  have turned : Recalls (fun _ _ => True) [.connected (.ofWallet .ledger "0x1"), .turned]
      (autoConnected.begun (.selectAccount (.ofWallet .trezor "0x2"))) :=
    autoConnected_recalls.begun (.selectAccount (.ofWallet .trezor "0x2"))
  exact ⟨turned.begun (.selectAccount (.ofWallet .ledger "0x1")), rfl, rfl, rfl,
    ⟨rfl, rfl, rfl, rfl, rfl⟩, rfl⟩

end Provider

end SignerLink
