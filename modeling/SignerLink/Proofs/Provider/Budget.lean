import Mathlib.Data.List.DropRight
import SignerLink.Proofs.Provider.Attachment
import SignerLink.Proofs.Provider.Completion
/-!
How often a connect that nobody asked for is tried again. The retries are counted from the last
account selection, permitted attachment or success on, and their number decides how long each of
them waits.
-/

namespace SignerLink

/-- What bears on the retries that are left. -/
inductive Tally where
  | selected
  /-- A device was attached, and its wallet may be used. -/
  | permitted
  /-- A connect that nobody asked for has succeeded for the selected account. -/
  | connected
  /-- At this time a connect was put off to be tried again by the strand. -/
  | armed (now : Nat) (retry : Strand)

namespace Tally

def isArmed : Tally → Bool
  | .armed _ _ => true
  | .selected | .permitted | .connected => false

def count (retries : Nat) : Tally → Nat
  | .armed _ _ => retries + 1
  | .selected | .permitted | .connected => 0

end Tally

/-- How often a connect was put off since the last other entry. -/
def armedSince (history : List Tally) : Nat := (history.rtakeWhile Tally.isArmed).length

theorem armedSince_concat (history : List Tally) (entry : Tally) :
    armedSince (history ++ [entry]) = entry.count (armedSince history) := by
  cases entry with
  | armed now retry =>
      rw [armedSince, List.rtakeWhile_concat_pos _ _ _ rfl, List.length_append]
      rfl
  | selected | permitted | connected =>
      rw [armedSince, List.rtakeWhile_concat_neg _ _ _ Bool.false_ne_true]
      rfl

theorem armedSince_append (history entries : List Tally) :
    armedSince (history ++ entries) = entries.foldl Tally.count (armedSince history) := by
  induction entries generalizing history with
  | nil => simp
  | cons entry entries ih =>
      rw [List.append_cons, ih, armedSince_concat, List.foldl_cons]

theorem armedSince_stretch (earlier : List Tally) {stretch : List Tally}
    (armed : ∀ entry ∈ stretch, entry.isArmed = true) :
    armedSince (earlier ++ stretch) = armedSince earlier + stretch.length := by
  induction stretch using List.reverseRecOn with
  | nil => simp
  | append_singleton stretch entry ih =>
      have last := armed entry (by simp)
      have before := ih fun other member => armed other (List.mem_append_left _ member)
      rw [← List.append_assoc, armedSince_concat, before]
      cases entry with
      | armed now retry => simp [Tally.count, Nat.add_assoc]
      | _ => cases last

/-- The strand is to try a connect again at this time. -/
structure Strand.IsRetryAt (retry : Strand) (due : Nat) : Prop where
  idle : retry.call = none
  timed : ∃ epoch trigger, retry.duty = .retry epoch trigger due

/-- Whenever a connect is put off, a retry is left, and its delay is that of its number. -/
def IsSpaced (policy : AutoConnectPolicy) (history : List Tally) : Prop :=
  ∀ earlier now retry later, history = earlier ++ .armed now retry :: later →
    armedSince earlier < policy.retryLimit ∧
      retry.IsRetryAt (now + (policy.retryDelay (armedSince earlier)).milliseconds)

namespace IsSpaced

variable {policy : AutoConnectPolicy} {history earlier stretch later entries : List Tally}

theorem nil (policy : AutoConnectPolicy) : IsSpaced policy [] := by
  intro earlier now retry later same
  simp at same

theorem concat (spaced : IsSpaced policy history) {entry : Tally}
    (last : ∀ now retry, entry = .armed now retry → armedSince history < policy.retryLimit ∧
      retry.IsRetryAt (now + (policy.retryDelay (armedSince history)).milliseconds)) :
    IsSpaced policy (history ++ [entry]) := by
  intro earlier now retry later same
  rcases List.eq_nil_or_concat later with rfl | ⟨others, final, rfl⟩
  · obtain ⟨rfl, ends⟩ := List.append_inj' same rfl
    exact last now retry (List.singleton_inj.mp ends)
  · rw [List.concat_eq_append, ← List.cons_append, ← List.append_assoc] at same
    exact spaced earlier now retry others (List.append_inj' same rfl).1

theorem append (spaced : IsSpaced policy history)
    (plain : ∀ entry ∈ entries, entry.isArmed = false) : IsSpaced policy (history ++ entries) := by
  induction entries generalizing history with
  | nil => rwa [List.append_nil]
  | cons entry entries ih =>
      have first : IsSpaced policy (history ++ [entry]) := by
        refine spaced.concat ?_
        rintro now retry rfl
        cases plain _ (.head _)
      rw [List.append_cons]
      exact ih first fun other member => plain other (.tail _ member)

theorem stretch_le (spaced : IsSpaced policy history)
    (splits : history = earlier ++ stretch ++ later)
    (armed : ∀ entry ∈ stretch, entry.isArmed = true) : stretch.length ≤ policy.retryLimit := by
  rcases List.eq_nil_or_concat stretch with rfl | ⟨others, last, rfl⟩
  · exact Nat.zero_le _
  · -- The last connect of the stretch was put off while a retry was left.
    rw [List.concat_eq_append] at splits armed ⊢
    have before : armedSince (earlier ++ others) = armedSince earlier + others.length :=
      armedSince_stretch earlier fun other member => armed other (List.mem_append_left _ member)
    have final := armed last (by simp)
    cases last with
    | armed now retry =>
        have left := (spaced (earlier ++ others) now retry later (by simp [splits])).1
        simp only [List.length_append, List.length_singleton]
        omega
    | _ => cases final

theorem armedSince_le (spaced : IsSpaced policy history) :
    armedSince history ≤ policy.retryLimit := by
  have splits : history = history.rdropWhile Tally.isArmed ++ history.rtakeWhile Tally.isArmed ++
      [] := by
    rw [List.append_nil, List.rdropWhile_append_rtakeWhile]
  exact spaced.stretch_le splits fun entry => List.mem_rtakeWhile_imp

end IsSpaced

def Setback.retry {Bench : Type} (setback : Setback Bench) : Strand where
  id := setback.instant.nextStrand
  duty := .retry setback.epoch setback.trigger setback.due

def Milestone.tally? : Milestone → Option Tally
  | .connected _ => some .connected
  | .released | .turned => none

namespace Provider

variable {Bench : Type} [AdapterBench Bench]

/-! What a turn comes to. -/

/-- What the answer of an attach check comes to. -/
def permitted (provider : Provider Bench) (epoch : Nat) (call : PermissionCall) : List Tally :=
  if provider.isCurrent epoch && call.permission == .granted then [.permitted] else []

/-- The check for a device that is attached now would be answered at once and grant permission. -/
def permitsAtOnce (provider : Provider Bench) : Bool :=
  provider.wallet?.any fun wallet =>
    !provider.isCancelled && !provider.connection.isBusy &&
      (provider.beginCheck wallet).2.2 == 0 && (provider.attachCall wallet).permission == .granted

def cleared (provider : Provider Bench) : Work → List Tally
  | .begin _ (.selectAccount account) =>
      if provider.isCancelled || provider.tracking.account == account then [] else [.selected]
  | .begin host (.plugEvent (.attached _)) =>
      if (provider.setHost host).permitsAtOnce then [.permitted] else []
  | .resume (.attachCheck epoch _ call) => provider.permitted epoch call
  | _ => []

def restarted (provider : Provider Bench) (work : Work) : List Tally :=
  provider.cleared work ++ (provider.performed work).filterMap Milestone.tally?

def restarts (provider : Provider Bench) (strand : Strand) : List Tally :=
  (provider.work? strand).elim [] fun taken => provider.restarted taken.1

/-- The strands that have come to stand in line to try a connect again. -/
def newRetries (before after : Provider Bench) : List Strand :=
  after.strands.filter fun strand =>
    decide (before.nextStrand ≤ strand.id) && strand.duty.pursued?.isSome

def armed (before after : Provider Bench) : List Tally :=
  (before.newRetries after).map (.armed before.now)

structure PutsOff (provider : Provider Bench) (strand : Strand) (setback : Setback Bench) :
    Prop where
  fails : provider.Fails strand setback
  current : setback.instant.tracking.epoch = setback.epoch
  unwilled : setback.error.isUserRejection = false
  left : setback.instant.tracking.retries < setback.instant.policy.retryLimit

structure Counts (before : Provider Bench) (retries : Nat) (after : Provider Bench) : Prop
    extends RetriesNothing before after where
  retries : after.tracking.retries = retries

end Provider

def Course.Counts {Bench : Type} (before : Provider Bench) (retries : Nat) : Course Bench → Prop
  | .elsewhere result => before.Counts retries result.1
  | .evaluation instant _ _ | .answer instant _ _ => before.Counts retries instant

namespace Provider

variable {Bench : Type} [AdapterBench Bench] {evolves : Bench → Bench → Prop}
  {before middle after provider : Provider Bench} {strand next : Strand} {work : Work}
  {count : Nat} {setback : Setback Bench}

section Counts

omit [AdapterBench Bench]

theorem Steady.counts (steady : before.Steady after) :
    before.Counts before.tracking.retries after := ⟨steady.toRetriesNothing, steady.retries⟩

theorem Counts.later (first : before.Counts count middle) (rest : middle.Steady after) :
    before.Counts count after :=
  ⟨first.toRetriesNothing.trans rest.toRetriesNothing, rest.retries.trans first.retries⟩

theorem accountCheckedCourse_counts (counts : before.Counts count provider) (selection : Nat)
    (call : PermissionCall) :
    (provider.accountCheckedCourse selection call).Counts before count := by
  simp only [accountCheckedCourse]
  split <;> exact counts.later (.permitted _)

theorem attachCheckedCourse_counts (counts : before.Counts count provider) (selection : Nat)
    (deviceId : String) (call : PermissionCall) :
    (provider.attachCheckedCourse selection deviceId call).Counts before
      ((provider.permitted selection call).foldl Tally.count count) := by
  have told := counts.later (.permitted (provider.permission.commit call))
  have same : (provider.setPermission (provider.permission.commit call)).isCurrent selection =
      provider.isCurrent selection := rfl
  simp only [attachCheckedCourse, permitted, same]
  split
  · exact ⟨told.toRetriesNothing.trans (.tracked _), rfl⟩
  · exact told

end Counts

theorem selectAccountCourse_counts (host : MemoryHost) (account : Account) :
    ((provider.setHost host).selectAccountCourse account).Counts provider
      ((provider.cleared (.begin host (.selectAccount account))).foldl Tally.count
        provider.tracking.retries) := by
  have asked : provider.Steady (provider.setHost host) := .asked host
  have same : ((provider.setHost host).isCancelled ||
      (provider.setHost host).tracking.account == account) =
        (provider.isCancelled || provider.tracking.account == account) := rfl
  simp only [selectAccountCourse, cleared, same]
  split
  next => exact asked.counts
  next =>
    have tracked : provider.Counts 0 ((provider.setHost host).track account) :=
      ⟨asked.toRetriesNothing.trans (.tracked _), rfl⟩
    split
    next =>
      have released : ((provider.setHost host).track account).RetriesNothing
          ((provider.setHost host).track account).release := .aside rfl rfl rfl rfl
      exact ⟨tracked.toRetriesNothing.trans released, rfl⟩
    next wallet _ =>
      have turned := (tracked.later (turnTo_steady wallet)).later (beginCheck_steady wallet)
      split
      next => exact accountCheckedCourse_counts turned _ _
      next => exact turned

theorem attachedCourse_counts (asked : before.Steady provider) (device : Device) :
    (provider.plugEventCourse (.attached device)).Counts before
      ((if provider.permitsAtOnce then [Tally.permitted] else []).foldl Tally.count
        before.tracking.retries) := by
  generalize same : (if provider.permitsAtOnce then [Tally.permitted] else []) = entries
  have refused (not : provider.permitsAtOnce = false) :
      before.Counts (entries.foldl Tally.count before.tracking.retries) provider := by
    rw [← same, not]
    exact asked.counts
  simp only [plugEventCourse]
  split
  next ended => exact refused (by simp [permitsAtOnce, ended])
  next live =>
    split
    next software => exact refused (by simp [permitsAtOnce, software])
    next wallet named =>
      split
      next busy => exact refused (by simp [permitsAtOnce, named, busy])
      next free =>
        have checked := asked.counts.later (beginCheck_steady wallet)
        split
        next instant =>
          have current : (provider.beginCheck wallet).1.isCurrent provider.tracking.epoch =
              true := by
            have goesOn : (provider.beginCheck wallet).1.isCancelled = provider.isCancelled := rfl
            have kept : (provider.beginCheck wallet).1.tracking = provider.tracking := rfl
            simp [isCurrent, goesOn, live, kept]
          have granted : provider.permitsAtOnce =
              ((provider.attachCall wallet).permission == .granted) := by
            simp [permitsAtOnce, named, live, free, instant]
          have answered := attachCheckedCourse_counts checked provider.tracking.epoch device.id
            (provider.attachCall wallet)
          rw [permitted, current, Bool.true_and, ← granted, same] at answered
          exact answered
        next waits =>
          have notYet : provider.permitsAtOnce = false := by
            simp [permitsAtOnce, named, waits]
          rw [← same, notYet]
          exact checked

theorem plugEventCourse_counts (host : MemoryHost) (event : PlugEvent) :
    ((provider.setHost host).plugEventCourse event).Counts provider
      ((provider.cleared (.begin host (.plugEvent event))).foldl Tally.count
        provider.tracking.retries) := by
  have asked : provider.Steady (provider.setHost host) := .asked host
  cases event with
  | attached device => exact attachedCourse_counts asked device
  | detached device =>
      have detached : provider.Counts provider.tracking.retries
          ((provider.setHost host).plugEvent (.detached device)).1 :=
        (asked.trans (detached_pursuesNothing device).steady).counts
      simp only [plugEventCourse]
      split
      next => exact asked.counts
      next =>
        split
        next => exact asked.counts
        next => exact detached

theorem course_counts (provider : Provider Bench) (plain : work.pursued? = none) :
    (provider.course work).Counts provider
      ((provider.cleared work).foldl Tally.count provider.tracking.retries) := by
  cases work with
  | evaluate _ _ => exact (Steady.refl provider).counts
  | begin host request =>
      have other (notSelection : ∀ account, request ≠ .selectAccount account)
          (notEvent : ∀ event, request ≠ .plugEvent event) :
          (Course.elsewhere ((provider.setHost host).begin request)).Counts provider
            provider.tracking.retries :=
        ((Steady.asked host).trans (begin_pursuesNothing notSelection notEvent).steady).counts
      cases request with
      | selectAccount account => exact selectAccountCourse_counts host account
      | plugEvent event => exact plugEventCourse_counts host event
      | _ => exact other (by simp) (by simp)
  | resume call =>
      cases call with
      | autoConnect _ _ _ _ => cases plain
      | accountCheck selection call =>
          exact accountCheckedCourse_counts (Steady.refl provider).counts selection call
      | attachCheck selection deviceId call =>
          exact attachCheckedCourse_counts (Steady.refl provider).counts selection deviceId call
      | search epoch found => exact (Steady.refl provider).counts
      | _ => exact (resume_pursuesNothing rfl).steady.counts

/-! Where a connect ends. -/

omit [AdapterBench Bench] in
theorem settle_counts (provider : Provider Bench) (selection : Nat) (account : Account)
    (trigger : Trigger) (outcome : ConnectOutcome) :
    (∃ error, outcome = .failed error ∧ provider.tracking.epoch = selection ∧
      error.isUserRejection = false ∧ provider.tracking.retries < provider.policy.retryLimit) ∨
    provider.Counts (((provider.settled selection (.finished outcome)).filterMap
      Milestone.tally?).foldl Tally.count provider.tracking.retries)
        (provider.settle selection account trigger outcome) := by
  have still : provider.Counts provider.tracking.retries provider := (Steady.refl provider).counts
  by_cases current : provider.tracking.epoch = selection
  · cases outcome with
    | connected =>
        refine .inr ?_
        simp only [settled, settle, current, ne_eq, not_true_eq_false, if_true, if_false]
        exact ⟨.tracked _, rfl⟩
    | failed error =>
        simp only [settled, settle, current, ne_eq, not_true_eq_false, if_false]
        split
        next => exact .inr still
        next goesOn =>
          simp only [ge_iff_le, Bool.or_eq_true, decide_eq_true_eq, not_or, Bool.not_eq_true,
            Nat.not_le] at goesOn
          exact .inl ⟨error, rfl, trivial, goesOn.1, goesOn.2⟩
    | superseded | aborted =>
        refine .inr ?_
        simp only [settle, current, ne_eq, not_true_eq_false, if_false]
        exact still
  · refine .inr ?_
    have unsettled : provider.settled selection (.finished outcome) = [] := by
      cases outcome <;> simp [settled, current]
    simp only [unsettled, settle, ne_eq, current, not_false_eq_true, if_true]
    exact still

omit [AdapterBench Bench] in
theorem followAttempt_counts (provider : Provider Bench) (selection : Nat) (account : Account)
    (trigger : Trigger) (progress : Connection.AttemptProgress) :
    (∃ error, progress = .finished (.failed error) ∧ provider.tracking.epoch = selection ∧
      error.isUserRejection = false ∧ provider.tracking.retries < provider.policy.retryLimit) ∨
    provider.Counts (((provider.settled selection progress).filterMap
      Milestone.tally?).foldl Tally.count provider.tracking.retries)
        (provider.followAttempt selection account trigger progress).1 := by
  cases progress with
  | waiting call milliseconds => exact .inr (Steady.refl provider).counts
  | finished outcome =>
      rcases provider.settle_counts selection account trigger outcome with
        ⟨error, rfl, current, unwilled, left⟩ | counts
      · exact .inl ⟨error, rfl, current, unwilled, left⟩
      · exact .inr counts

theorem launch_counts {course : Course Bench} {launch : Launch Bench}
    (counts : course.Counts before count) (launched : course.launch? = some launch) :
    before.Counts count launch.instant := by
  cases course with
  | elsewhere _ => cases launched
  | evaluation start selection trigger =>
      obtain ⟨host, instant⟩ := evaluateLaunch_instant launched
      rw [instant]
      exact counts.later (.asked host)
  | answer start selection found =>
      obtain ⟨_, instant, _⟩ := of_searchedLaunch launched
      rw [instant]
      exact counts

theorem still_counts {course : Course Bench} (counts : course.Counts before count)
    (still : course.launch? = none) : before.Counts count course.result.1 := by
  cases course with
  | elsewhere _ => exact counts
  | evaluation start selection trigger =>
      obtain ⟨host, step, same, _⟩ := evaluate_of_none still
      simp only [Course.result, same]
      exact counts.later (.asked host)
  | answer start selection found =>
      have same : start.searched selection found = (start, .finished .done) :=
        searched_of_none still
      simp only [Course.result, same]
      exact counts

theorem reached_plain (plain : work.pursued? = none) :
    (provider.reached work).filterMap Milestone.tally? = [] := by
  cases work with
  | evaluate _ _ => rfl
  | begin host request =>
      cases request with
      | selectAccount account =>
          simp only [reached, resets]
          split
          next => rfl
          next => split <;> [rfl; split <;> rfl]
      | _ => rfl
  | resume call =>
      cases call with
      | autoConnect _ _ _ _ => cases plain
      | _ => rfl

theorem restarts_plain (provider : Provider Bench) (strand : Strand) :
    ∀ entry ∈ provider.restarts strand, entry.isArmed = false := by
  intro entry member
  cases entry with
  | selected | permitted | connected => rfl
  | armed now retry =>
      exfalso
      cases takes : provider.work? strand with
      | none => simp [restarts, takes] at member
      | some taken =>
          rw [restarts, takes, Option.elim_some, restarted] at member
          rcases List.mem_append.mp member with before | after
          · simp only [cleared, Provider.permitted] at before
            split at before <;> simp at before
          · obtain ⟨milestone, _, same⟩ := List.mem_filterMap.mp after
            cases milestone <;> cases same

/-- Up to where a connect fails that is to be tried again, or else to its end, the work leaves the
count as its entries say. -/
theorem perform_counts (takes : provider.work? strand = some (work, next)) :
    (∃ setback, provider.PutsOff strand setback ∧
      provider.Counts ((provider.restarted work).foldl Tally.count provider.tracking.retries)
        setback.instant) ∨
    provider.Counts ((provider.restarted work).foldl Tally.count provider.tracking.retries)
      (provider.perform work).1 := by
  cases pursued : work.pursued? with
  | some selection =>
      obtain ⟨account, trigger, call, rfl⟩ := Work.attempt_of_pursued pursued
      obtain ⟨due, waits⟩ := call_of_resume takes
      let gone := provider.setConnection (provider.connection.resumeAttempt call).1
      have steady : provider.Steady gone := .through _
      have entries : provider.restarted (.resume (.autoConnect selection account trigger call)) =
          (gone.settled selection (provider.connection.resumeAttempt call).2).filterMap
            Milestone.tally? :=
        congrArg (List.filterMap Milestone.tally?) (List.append_nil _)
      rw [entries]
      rcases gone.followAttempt_counts selection account trigger
          (provider.connection.resumeAttempt call).2 with
        ⟨error, ends, current, unwilled, left⟩ | counts
      · refine .inl ⟨_, ⟨.waited selection account trigger call due error waits ends, current,
          unwilled, left⟩, ?_⟩
        rw [ends]
        exact steady.counts
      · exact .inr ⟨steady.toRetriesNothing.trans counts.toRetriesNothing, counts.retries⟩
  | none =>
      have counts := provider.course_counts pursued
      have entries : provider.restarted work = provider.cleared work ++
          ((provider.course work).launch?.elim [] fun launch =>
            launch.instant.settled launch.epoch launch.attempt.2).filterMap Milestone.tally? := by
        rw [restarted, performed, List.filterMap_append, reached_plain pursued, List.nil_append]
      rw [perform_eq, entries, List.foldl_append]
      cases launched : (provider.course work).launch? with
      | none => exact .inr (still_counts counts launched)
      | some launch =>
          have instant := launch_counts counts launched
          let gone := launch.instant.setConnection launch.attempt.1
          have begun : provider.Counts _ gone := instant.later (.through _)
          rw [result_of_launch launched]
          rcases gone.followAttempt_counts launch.epoch launch.account launch.trigger
              launch.attempt.2 with ⟨error, ends, current, unwilled, left⟩ | counts
          · have launches : provider.launch? strand = some launch := by
              rw [launch?, course?, takes]
              exact launched
            refine .inl ⟨_, ⟨.atOnce launch error launches ends, current, unwilled, left⟩, ?_⟩
            rw [Option.elim_some, ends]
            exact begun
          · rw [begun.retries] at counts
            exact .inr ⟨begun.toRetriesNothing.trans counts.toRetriesNothing, counts.retries⟩

/-! Who comes to stand in line. -/

section NewRetries

omit [AdapterBench Bench]

theorem RetriesNothing.newRetries (retriesNothing : before.RetriesNothing after)
    (distinct : before.Distinct) : before.newRetries after = [] := by
  obtain ⟨spawned, same, plain⟩ := retriesNothing.strands
  rw [Provider.newRetries, same, List.filter_eq_nil_iff]
  intro strand member
  rcases List.mem_append.mp member with stood | started
  · simp [distinct.below strand stood]
  · simp [plain strand started]

theorem newRetries_remove (below : strand.id < before.nextStrand) :
    before.newRetries (after.remove strand.id) = before.newRetries after := by
  simp only [newRetries, remove, List.filter_filter]
  refine List.filter_congr fun other _ => ?_
  by_cases same : other.id = strand.id
  · simp [same, below]
  · simp [same]

theorem newRetries_put (below : strand.id < before.nextStrand) :
    before.newRetries (after.put strand) = before.newRetries after := by
  simp only [newRetries, put, beq_iff_eq]
  induction after.strands with
  | nil => rfl
  | cons other others ih =>
      by_cases same : other.id = strand.id
      · simp [same, below, ih]
      · simp [same, List.filter_cons, ih]

theorem newRetries_proceed (below : next.id < before.nextStrand) (step : Step) :
    before.newRetries (after.proceed next step) = before.newRetries after := by
  cases step with
  | waiting call milliseconds => exact newRetries_put below
  | finished reply =>
      simp only [proceed]
      split
      next => exact newRetries_remove below
      next => exact newRetries_remove below
      next => exact newRetries_put below

theorem proceed_policy (step : Step) : (provider.proceed next step).policy = provider.policy := by
  simp only [proceed]
  split
  · rfl
  · split <;> rfl

end NewRetries

namespace PutsOff

theorem settled (putsOff : provider.PutsOff strand setback) :
    setback.settled = ((setback.instant.setTracking
      { setback.instant.tracking with retries := setback.instant.tracking.retries + 1 }).spawn
        (.retry setback.epoch setback.trigger setback.due)).1 :=
  settled_current putsOff.current putsOff.unwilled putsOff.left

theorem newRetries (putsOff : provider.PutsOff strand setback) (distinct : before.Distinct)
    (retriesNothing : before.RetriesNothing setback.instant) :
    before.newRetries setback.settled = [setback.retry] := by
  have stood : setback.instant.strands.filter (fun strand =>
      decide (before.nextStrand ≤ strand.id) && strand.duty.pursued?.isSome) = [] :=
    retriesNothing.newRetries distinct
  have later : before.nextStrand ≤ setback.instant.nextStrand := retriesNothing.nextStrand
  rw [putsOff.settled]
  simp only [Provider.newRetries, spawn, setTracking, List.filter_append, stood, List.nil_append]
  simp [later, Duty.pursued?, Setback.retry]

end PutsOff

/-! Turns. -/

def countIn (provider : Provider Bench) (strand : Strand) : Nat :=
  (provider.restarts strand).foldl Tally.count provider.tracking.retries

inductive Turns (provider : Provider Bench) (strand : Strand) (after : Provider Bench) : Prop where
  | quietly :
      after.policy = provider.policy → after.tracking.retries = provider.countIn strand →
      provider.newRetries after = [] → Turns provider strand after
  | puttingOff (setback : Setback Bench) :
      after.policy = provider.policy → after.tracking.retries = provider.countIn strand + 1 →
      provider.newRetries after = [setback.retry] → provider.PutsOff strand setback →
      provider.Counts (provider.countIn strand) setback.instant → Turns provider strand after

theorem advance_turns (distinct : provider.Distinct) (member : strand ∈ provider.strands) :
    provider.Turns strand (provider.advance strand) := by
  have below : strand.id < provider.nextStrand := distinct.below strand member
  cases takes : provider.work? strand with
  | none =>
      have plain : provider.restarts strand = [] := by rw [restarts, takes, Option.elim_none]
      have still (after : Provider Bench) (policy : after.policy = provider.policy)
          (tracking : after.tracking = provider.tracking)
          (new : provider.newRetries after = []) : provider.Turns strand after := by
        refine .quietly policy ?_ new
        rw [countIn, plain, tracking, List.foldl_nil]
      obtain ⟨subscriptions, connection, _, rests | ends⟩ := advance_of_none takes
      all_goals
        have paused : provider.RetriesNothing (provider.paused subscriptions connection) :=
          .aside rfl rfl rfl rfl
      · rw [rests]
        exact still _ rfl rfl (paused.newRetries distinct)
      · rw [ends]
        exact still _ rfl rfl ((newRetries_remove below).trans (paused.newRetries distinct))
  | some taken =>
      obtain ⟨work, next⟩ := taken
      have counted : provider.countIn strand =
          (provider.restarted work).foldl Tally.count provider.tracking.retries := by
        rw [countIn, restarts, takes, Option.elim_some]
      rcases perform_counts takes with ⟨setback, putsOff, counts⟩ | counts
      · rw [← counted] at counts
        -- The count goes up and the strand is added after all that the turn comes to.
        obtain ⟨next, named, advanced⟩ := putsOff.fails.advance
        have settled := putsOff.settled
        rw [advanced]
        refine .puttingOff setback ?_ ?_ ?_ putsOff counts
        · rw [proceed_policy, settled]
          exact counts.policy
        · rw [proceed_tracking, settled, ← counts.retries]
          rfl
        · rw [newRetries_proceed (named ▸ below)]
          exact putsOff.newRetries distinct counts.toRetriesNothing
      · rw [← counted] at counts
        rw [advance_of_work takes]
        refine .quietly ?_ ?_ ?_
        · rw [proceed_policy, counts.policy]
        · rw [proceed_tracking, counts.retries]
        · rw [newRetries_proceed (work?_id takes ▸ below)]
          exact counts.newRetries distinct

theorem Turns.letGo (turns : provider.Turns strand after) : provider.Turns strand after.letGo := by
  have steady : after.Steady after.letGo := letGo_steady
  have new : provider.newRetries after.letGo = provider.newRetries after := by
    rw [newRetries, letGo_strands, ← newRetries]
  cases turns with
  | quietly same counted nothing =>
      exact .quietly (steady.policy.trans same) (steady.retries.trans counted) (new.trans nothing)
  | puttingOff setback same counted armed putsOff counts =>
      exact .puttingOff setback (steady.policy.trans same) (steady.retries.trans counted)
        (new.trans armed) putsOff counts

theorem Transition.newRetries (transition : Transition evolves before after)
    (distinct : before.Distinct)
    (noTurn : ∀ strand ∈ before.strands, before.canMove strand = true →
      after ≠ (before.advance strand).letGo) :
    after.policy = before.policy ∧ after.tracking.retries = before.tracking.retries ∧
      before.newRetries after = [] := by
  rcases transition.steady with ⟨strand, member, ready, same⟩ | ⟨later, steady⟩
  · exact absurd same (noTurn strand member ready)
  · have numbered : Distinct { before with now := later } := ⟨distinct.nodup, distinct.below⟩
    exact ⟨steady.policy, steady.retries, steady.newRetries numbered⟩

/-! Histories. -/

/-- These are all the entries of a provider that was set up with none, in their order. -/
inductive Tallies (evolves : Bench → Bench → Prop) : List Tally → Provider Bench → Prop where
  | start (first : Provider Bench) : first.IsNew → first.tracking.retries = 0 →
      Tallies evolves [] first
  | turn (history : List Tally) (before : Provider Bench) (strand : Strand) :
      Tallies evolves history before → strand ∈ before.strands →
      before.canMove strand = true →
      Tallies evolves
        (history ++ before.restarts strand ++ before.armed (before.advance strand).letGo)
        (before.advance strand).letGo
  | aside (history : List Tally) (before after : Provider Bench) :
      Tallies evolves history before → Transition evolves before after →
      (∀ strand ∈ before.strands, before.canMove strand = true →
        after ≠ (before.advance strand).letGo) →
      Tallies evolves (history ++ before.armed after) after

namespace Tallies

variable {history : List Tally}

theorem reachable (tallies : Tallies evolves history provider) : provider.Reachable evolves := by
  induction tallies with
  | start first new _ => exact ⟨first, new, .refl⟩
  | turn history before strand _ member ready ih =>
      exact ih.tail (.advance before strand member ready)
  | aside history before after _ transition _ ih => exact ih.tail transition

theorem turned (tallies : Tallies evolves history before) (member : strand ∈ before.strands) :
    before.Turns strand (before.advance strand).letGo :=
  (advance_turns tallies.reachable.run.1 member).letGo

theorem retries (tallies : Tallies evolves history provider) :
    provider.tracking.retries = armedSince history := by
  induction tallies with
  | start first _ none => exact none
  | turn history before strand tallies member _ ih =>
      have counted : before.countIn strand = armedSince (history ++ before.restarts strand) := by
        rw [armedSince_append, countIn, ih]
      cases tallies.turned member with
      | quietly _ same nothing =>
          rw [armed, nothing, List.map_nil, List.append_nil, same, counted]
      | puttingOff setback _ same armed _ _ =>
          rw [Provider.armed, armed, List.map_singleton, armedSince_concat, same, counted]
          rfl
  | aside history before after tallies transition noTurn ih =>
      obtain ⟨_, same, nothing⟩ := transition.newRetries tallies.reachable.run.1 noTurn
      rw [armed, nothing, List.map_nil, List.append_nil, same, ih]

theorem spaced (tallies : Tallies evolves history provider) :
    IsSpaced provider.policy history := by
  induction tallies with
  | start first _ _ => exact .nil _
  | turn history before strand tallies member _ ih =>
      have restarted := ih.append (before.restarts_plain strand)
      cases tallies.turned member with
      | quietly policy _ nothing =>
          rw [armed, nothing, List.map_nil, List.append_nil, policy]
          exact restarted
      | puttingOff setback policy _ armed putsOff counts =>
          rw [Provider.armed, armed, List.map_singleton, policy]
          refine restarted.concat ?_
          intro now retry same
          cases same
          have counted : setback.instant.tracking.retries =
              armedSince (history ++ before.restarts strand) := by
            rw [counts.retries, countIn, tallies.retries, armedSince_append]
          have left := putsOff.left
          rw [counts.policy, counted] at left
          refine ⟨left, rfl, setback.epoch, setback.trigger, ?_⟩
          rw [Setback.retry, Setback.due, counts.now, counts.policy, counted]
  | aside history before after tallies transition noTurn ih =>
      obtain ⟨policy, _, nothing⟩ := transition.newRetries tallies.reachable.run.1 noTurn
      rwa [armed, nothing, List.map_nil, List.append_nil, policy]

end Tallies

theorem exists_tallies {first : Provider Bench} (new : first.IsNew)
    (fresh : first.tracking.retries = 0)
    (run : Relation.ReflTransGen (Transition evolves) first provider) :
    ∃ history, Tallies evolves history provider := by
  induction run with
  | refl => exact ⟨[], .start first new fresh⟩
  | @tail before after _ transition ih =>
      obtain ⟨history, tallies⟩ := ih
      by_cases turn : ∃ strand ∈ before.strands, before.canMove strand = true ∧
          after = (before.advance strand).letGo
      · obtain ⟨strand, member, ready, rfl⟩ := turn
        exact ⟨_, .turn history before strand tallies member ready⟩
      · refine ⟨_, .aside history before after tallies transition ?_⟩
        exact fun strand member ready same => turn ⟨strand, member, ready, same⟩

omit [AdapterBench Bench] in
theorem canMove_retry {retry : Strand} {due : Nat} (timed : retry.IsRetryAt due) :
    provider.canMove retry = (provider.isCancelled || decide (due ≤ provider.now)) := by
  obtain ⟨epoch, trigger, duty⟩ := timed.timed
  simp only [canMove, timed.idle, duty]

/-- However account selections, attached devices, timers and attempts interleave, the retries stay
within the limit, and so does every stretch of connects put off without a new start of the count.
The retry that is the `n`th since then has the `n`th delay to wait for. Only a connect for the
selected account that fails against the user's will is put off. -/
theorem retries_within_budget {first : Provider Bench} (new : first.IsNew)
    (fresh : first.tracking.retries = 0)
    (run : Relation.ReflTransGen (Transition evolves) first provider) :
    (∃ history, Tallies evolves history provider) ∧
    (∀ history, Tallies evolves history provider →
      provider.tracking.retries = armedSince history ∧
      provider.tracking.retries ≤ provider.policy.retryLimit ∧
      (∀ earlier stretch later, history = earlier ++ stretch ++ later →
        (∀ entry ∈ stretch, entry.isArmed = true) →
        stretch.length ≤ provider.policy.retryLimit) ∧
      (∀ earlier now retry later, history = earlier ++ .armed now retry :: later →
        ∃ due, due = now + (provider.policy.retryDelay (armedSince earlier)).milliseconds ∧
          retry.IsRetryAt due ∧ ∀ after : Provider Bench,
            after.canMove retry = (after.isCancelled || decide (due ≤ after.now)))) ∧
    (∀ strand ∈ provider.strands, ∀ retry ∈ provider.newRetries (provider.advance strand).letGo,
      ∃ setback, provider.Fails strand setback ∧
        setback.instant.tracking.epoch = setback.epoch ∧ setback.error.isUserRejection = false ∧
        retry = setback.retry) ∧
    (∀ after, Transition evolves provider after →
      (∀ strand ∈ provider.strands, provider.canMove strand = true →
        after ≠ (provider.advance strand).letGo) →
      provider.newRetries after = []) := by
  have reachable : provider.Reachable evolves := ⟨first, new, run⟩
  refine ⟨exists_tallies new fresh run, fun history tallies => ⟨tallies.retries, ?_, ?_, ?_⟩,
    ?_, ?_⟩
  · exact tallies.retries ▸ tallies.spaced.armedSince_le
  · exact fun _ _ _ => tallies.spaced.stretch_le
  · intro earlier now retry later same
    obtain ⟨_, timed⟩ := tallies.spaced earlier now retry later same
    exact ⟨_, rfl, timed, fun after => canMove_retry timed⟩
  · intro strand member retry within
    cases (advance_turns reachable.run.1 member).letGo with
    | quietly _ _ nothing =>
        rw [nothing] at within
        cases within
    | puttingOff setback _ _ armed putsOff _ =>
        rw [armed, List.mem_singleton] at within
        exact ⟨setback, putsOff.fails, putsOff.current, putsOff.unwilled, within⟩
  · intro after transition noTurn
    exact (transition.newRetries reachable.run.1 noTurn).2.2

def failedOnce : Provider SimulatedBench :=
  ({ connectingFirst with now := 20 }.advance slowConnect).letGo

theorem retries_within_budget_failedOnce :
    ∃ history, Tallies (fun _ _ => True) history failedOnce ∧ armedSince history = 1 := by
  have run : Relation.ReflTransGen (Transition fun _ _ => True)
      (ofBench
        { device := { latency := 20, nextFailure := some (.wallet (.ofCode .timeout)) } })
      failedOnce :=
    (((Relation.ReflTransGen.single (.onHost _ _)).trans (begun_run _ _)).tail
      (.wait connectingFirst 20 (by decide))).tail (.advance _ slowConnect (.head _) rfl)
  obtain ⟨⟨history, tallies⟩, counts, _⟩ := retries_within_budget ⟨rfl, rfl⟩ rfl run
  obtain ⟨counted, _⟩ := counts history tallies
  exact ⟨history, tallies, counted.symm.trans rfl⟩

end Provider

end SignerLink
