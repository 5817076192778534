import SignerLink.Proofs.Provider.Patience
import SignerLink.Proofs.Provider.Release
/-!
After a failed connect that nobody asked for: whether it is tried again, or something else goes on
for the account that is selected by then.
-/

namespace SignerLink

/-- A connect that nobody asked for has failed, with the provider as it is at that instant. -/
structure Setback (Bench : Type) where
  instant : Provider Bench
  epoch : Nat
  account : Account
  trigger : Trigger
  error : WalletError

namespace Setback

variable {Bench : Type}

def settled (setback : Setback Bench) : Provider Bench :=
  setback.instant.settle setback.epoch setback.account setback.trigger (.failed setback.error)

def due (setback : Setback Bench) : Nat :=
  setback.instant.now +
    (setback.instant.policy.retryDelay setback.instant.tracking.retries).milliseconds

/-- The connect is to be tried again for the same account selection, and that is counted. -/
structure IsRetried (setback : Setback Bench) (after : Provider Bench) : Prop where
  current : after.tracking.epoch = setback.epoch
  counted : after.tracking.retries = setback.instant.tracking.retries + 1
  armed : ∃ strand ∈ after.strands, strand.call = none ∧
    strand.duty = .retry setback.epoch setback.trigger setback.due

end Setback

def Launch.attempt {Bench : Type} [AdapterBench Bench] (launch : Launch Bench) :
    Connection Bench × Connection.AttemptProgress :=
  launch.instant.connection.connect launch.wallet (.device launch.deviceId)

theorem Connection.token_of_failed {Bench : Type} [AdapterBench Bench]
    {connection : Connection Bench} {call : AttemptCall} {error : WalletError}
    (fails : (connection.resumeAttempt call).2 = .finished (.failed error)) :
    connection.session.token = some call.token := by
  by_contra lost
  have interrupted := interruption?_of_stale lost
  rw [← Progress.finished.inj (fails.symm.trans (resumeAttempt_spares call lost).2)] at interrupted
  exact interruption?_ne_failed interrupted

namespace Provider

variable {Bench : Type} [AdapterBench Bench] {evolves : Bench → Bench → Prop}
  {start provider : Provider Bench} {strand : Strand} {work : Work} {epoch : Nat}

/-! Where a connect starts. -/

theorem accountCheckedStart_acts {trigger : Trigger} {selection : Nat} {call : PermissionCall}
    (course : provider.accountCheckedCourse selection call = .evaluation start epoch trigger) :
    Acts evolves provider 0 start 0 := by
  simp only [accountCheckedCourse] at course
  split at course
  all_goals cases course
  exact .aside rfl rfl rfl

theorem attachCheckedStart_acts {trigger : Trigger} {selection : Nat} {deviceId : String}
    {call : PermissionCall}
    (course : provider.attachCheckedCourse selection deviceId call =
      .evaluation start epoch trigger) : Acts evolves provider 0 start 0 := by
  simp only [attachCheckedCourse] at course
  split at course
  all_goals cases course
  exact .aside rfl rfl rfl

theorem start_acts {trigger : Trigger}
    (course : provider.course work = .evaluation start epoch trigger) :
    Acts evolves provider 0 start 0 := by
  cases work with
  | evaluate _ _ =>
      cases course
      exact .refl
  | resume call =>
      cases call with
      | accountCheck _ _ => exact accountCheckedStart_acts course
      | attachCheck _ _ _ => exact attachCheckedStart_acts course
      | _ => cases course
  | begin host request =>
      have asked : Acts evolves provider 0 (provider.setHost host) 0 := .aside rfl rfl rfl
      cases request with
      | selectAccount account =>
          have tracked : Acts evolves provider 0 ((provider.setHost host).track account) 0 :=
            asked.trans (.aside rfl rfl rfl)
          simp only [Provider.course, selectAccountCourse] at course
          split at course
          next => cases course
          next =>
            split at course
            next => cases course
            next wallet _ =>
              split at course
              next =>
                have turned := tracked.trans ((turnTo_edits wallet).acts (by decide))
                exact (turned.trans ((beginCheck_edits wallet).acts (by decide))).trans
                  (accountCheckedStart_acts course)
              next => cases course
      | plugEvent event =>
          simp only [Provider.course, plugEventCourse] at course
          split at course
          next => cases course
          next =>
            split at course
            next => cases course
            next wallet _ =>
              split at course
              next => cases course
              next =>
                split at course
                next => cases course
                next =>
                  split at course
                  next =>
                    exact (asked.trans ((beginCheck_edits wallet).acts (by decide))).trans
                      (attachCheckedStart_acts course)
                  next => cases course
      | _ => cases course

theorem evaluateLaunch_instant {trigger : Trigger} {launch : Launch Bench}
    (launched : provider.evaluateLaunch? epoch trigger = some launch) :
    ∃ host, launch.instant = provider.setHost host := by
  simp only [evaluateLaunch?] at launched
  split at launched
  next => cases launched
  next wallet _ _ =>
    split at launched
    next deviceId =>
      obtain ⟨_, instant, _⟩ := of_autoConnectLaunch launched
      exact ⟨provider.host, instant⟩
    next =>
      split at launched
      next =>
        obtain ⟨_, instant, _⟩ := of_searchedLaunch launched
        exact ⟨(provider.host.inquire wallet).1, instant⟩
      next => cases launched

theorem instant_acts {launch : Launch Bench}
    (launched : (provider.course work).launch? = some launch) :
    Acts evolves provider 0 launch.instant 0 := by
  have follows : (provider.course work).Follows provider work := course_follows work
  cases course : provider.course work with
  | elsewhere result =>
      rw [course] at launched
      cases launched
  | evaluation start epoch trigger =>
      rw [course] at launched
      obtain ⟨host, instant⟩ := evaluateLaunch_instant launched
      rw [instant]
      exact (start_acts course).trans (.aside rfl rfl rfl)
  | answer start epoch found =>
      rw [course] at launched follows
      obtain ⟨_, instant, _⟩ := of_searchedLaunch launched
      rw [instant, follows.1]
      exact .refl

/-! Failures. -/

/-- In the turn of the strand a connect that nobody asked for fails: one that the strand has waited
for, or one that it has just begun. -/
inductive Fails (provider : Provider Bench) (strand : Strand) : Setback Bench → Prop where
  | waited (epoch : Nat) (account : Account) (trigger : Trigger) (call : AttemptCall) (due : Nat)
      (error : WalletError) :
      strand.call = some (.autoConnect epoch account trigger call, due) →
      (provider.connection.resumeAttempt call).2 = .finished (.failed error) →
      Fails provider strand
        ⟨provider.setConnection (provider.connection.resumeAttempt call).1, epoch, account, trigger,
          error⟩
  | atOnce (launch : Launch Bench) (error : WalletError) :
      provider.launch? strand = some launch → launch.attempt.2 = .finished (.failed error) →
      Fails provider strand
        ⟨launch.instant.setConnection launch.attempt.1, launch.epoch, launch.account,
          launch.trigger, error⟩

/-- Something goes on for the account selection that counts: a check of the account or of an
attached device, a search, an attempt, or a retry that is to come. -/
def IsPursued (provider : Provider Bench) : Prop :=
  ∃ strand ∈ provider.strands, strand.pursued? = some provider.tracking.epoch

section Settled

variable {setback : Setback Bench}

omit [AdapterBench Bench]

theorem settled_stale (stale : setback.instant.tracking.epoch ≠ setback.epoch) :
    setback.settled = setback.instant := if_pos stale

theorem settled_current (current : setback.instant.tracking.epoch = setback.epoch)
    (unwilled : setback.error.isUserRejection = false)
    (left : setback.instant.tracking.retries < setback.instant.policy.retryLimit) :
    setback.settled =
      ((setback.instant.setTracking
        { setback.instant.tracking with retries := setback.instant.tracking.retries + 1 }).spawn
          (.retry setback.epoch setback.trigger setback.due)).1 := by
  simp only [Setback.settled, settle, current, ne_eq, not_true_eq_false, unwilled, ge_iff_le,
    Nat.not_le_of_lt left, Bool.false_eq_true, decide_false, Bool.or_self, if_false]
  rfl

theorem followAttempt_failed {result : Connection Bench × Connection.AttemptProgress}
    {account : Account} {trigger : Trigger} {error : WalletError}
    (ends : result.2 = .finished (.failed error)) :
    (provider.setConnection result.1).followAttempt epoch account trigger result.2 =
      (Setback.settled ⟨provider.setConnection result.1, epoch, account, trigger, error⟩,
        .finished .done) := by
  rw [ends]
  rfl

end Settled

namespace Fails

variable {setback : Setback Bench}

theorem advance (fails : provider.Fails strand setback) :
    ∃ next : Strand, next.id = strand.id ∧
      provider.advance strand = setback.settled.proceed next (.finished .done) := by
  cases fails with
  | waited epoch account trigger call due error waits ends =>
      have performs : provider.perform (.resume (.autoConnect epoch account trigger call)) =
          (Setback.settled ⟨provider.setConnection (provider.connection.resumeAttempt call).1,
            epoch, account, trigger, error⟩, .finished .done) := followAttempt_failed ends
      exact ⟨strand, rfl, by rw [advance_of_work (work?_resume waits), performs]⟩
  | atOnce launch error launched ends =>
      obtain ⟨work, next, takes, launched⟩ := takes_of_launch launched
      have performs : launch.result = (Setback.settled ⟨launch.instant.setConnection
          launch.attempt.1, launch.epoch, launch.account, launch.trigger, error⟩,
            .finished .done) := followAttempt_failed ends
      refine ⟨next, work?_id takes, ?_⟩
      rw [advance_of_work takes, perform_eq, result_of_launch launched, performs]

theorem below (fails : provider.Fails strand setback) (distinct : provider.Distinct)
    (member : strand ∈ provider.strands) : strand.id < setback.instant.nextStrand := by
  cases fails with
  | waited => exact distinct.below strand member
  | atOnce launch error launched ends =>
      obtain ⟨work, next, takes, launched⟩ := takes_of_launch launched
      have acts : Acts (fun _ _ => True) provider 0 launch.instant 0 := instant_acts launched
      exact (acts.distinct distinct).below strand (acts.mem member)

theorem of_stale (fails : provider.Fails strand setback)
    (stale : setback.instant.tracking.epoch ≠ setback.epoch) :
    setback.instant.tracking = provider.tracking ∧ setback.instant.strands = provider.strands ∧
      ∃ token, strand.connects? = some (setback.epoch, token) ∧
        provider.connection.session.token = some token := by
  cases fails with
  | atOnce launch error launched ends =>
      obtain ⟨work, next, takes, launched⟩ := takes_of_launch launched
      exact absurd (of_launch launched).1.epoch stale
  | waited epoch account trigger call due error waits ends =>
      refine ⟨rfl, rfl, call.token, ?_, ?_⟩
      · rw [Strand.connects?, waits]
        rfl
      · exact Connection.token_of_failed ends

theorem isRetried (fails : provider.Fails strand setback) (distinct : provider.Distinct)
    (member : strand ∈ provider.strands)
    (current : setback.instant.tracking.epoch = setback.epoch)
    (unwilled : setback.error.isUserRejection = false)
    (left : setback.instant.tracking.retries < setback.instant.policy.retryLimit) :
    setback.IsRetried (provider.advance strand) := by
  obtain ⟨next, named, advanced⟩ := fails.advance
  rw [advanced, settled_current current unwilled left]
  constructor
  case current => rw [proceed_tracking]; exact current
  case counted => rw [proceed_tracking]; rfl
  case armed =>
    -- The retry is not taken for the strand whose turn it is, which leaves.
    have new : setback.instant.nextStrand ≠ next.id := by
      rw [named]
      exact (fails.below distinct member).ne'
    have stands : Strand.mk setback.instant.nextStrand
        (.retry setback.epoch setback.trigger setback.due) none ∈ _ :=
      List.mem_append_right setback.instant.strands (List.mem_singleton_self _)
    exact ⟨_, mem_proceed_of_ne _ stands new, rfl, rfl⟩

theorem mem_advance_of_stale (fails : provider.Fails strand setback) (distinct : provider.Distinct)
    (member : strand ∈ provider.strands)
    (stale : setback.instant.tracking.epoch ≠ setback.epoch) {other : Strand}
    (goesOn : other.pursued? ≠ none) :
    other ∈ (provider.advance strand).strands ↔ other ∈ provider.strands ∧ other ≠ strand := by
  obtain ⟨tracking, strands, _⟩ := fails.of_stale stale
  obtain ⟨next, named, advanced⟩ := fails.advance
  rw [advanced, settled_stale stale, ← strands]
  constructor
  · intro within
    rcases of_mem_proceed within with ⟨stands, different⟩ | ⟨plain, same⟩ | ⟨_, _, _, waits, _⟩
    · refine ⟨stands, ?_⟩
      rintro rfl
      exact different named.symm
    · rw [same, Strand.pursued?, plain] at goesOn
      exact absurd rfl goesOn
    · cases waits
  · rintro ⟨stands, different⟩
    refine mem_proceed_of_ne _ stands fun same => different ?_
    exact List.inj_on_of_nodup_map distinct.nodup (strands ▸ stands) member (same.trans named)

end Fails

omit [AdapterBench Bench] in
theorem isPursued_of_retried {setback : Setback Bench} (retried : setback.IsRetried provider) :
    provider.IsPursued := by
  obtain ⟨strand, member, idle, duty⟩ := retried.armed
  refine ⟨strand, member, ?_⟩
  rw [Strand.pursued?_idle idle, duty, retried.current]
  rfl

/-- After a failed connect that nobody asked for, with retries left, something goes on for the
selected account in two cases only: it is still the one that the connect was for, and then the
connect is tried again; or it was selected since, and its check is still under way. -/
theorem failed_connect_is_pursued_iff {setback : Setback Bench}
    (reachable : provider.Reachable fun _ _ => True) (member : strand ∈ provider.strands)
    (fails : provider.Fails strand setback) (unwilled : setback.error.isUserRejection = false)
    (left : setback.instant.tracking.retries < setback.instant.policy.retryLimit) :
    ((provider.advance strand).IsPursued ↔
      setback.instant.tracking.epoch = setback.epoch ∨
        ∃ other ∈ provider.strands, other.ChecksFor setback.instant.tracking.epoch) ∧
    (setback.instant.tracking.epoch = setback.epoch →
      setback.IsRetried (provider.advance strand)) := by
  have distinct := reachable.run.1
  have retried (current : setback.instant.tracking.epoch = setback.epoch) :
      setback.IsRetried (provider.advance strand) :=
    fails.isRetried distinct member current unwilled left
  refine ⟨?_, retried⟩
  by_cases current : setback.instant.tracking.epoch = setback.epoch
  · exact iff_of_true (isPursued_of_retried (retried current)) (.inl current)
  obtain ⟨tracking, _, token, connects, held⟩ := fails.of_stale current
  have newest : (provider.advance strand).tracking = provider.tracking := by
    obtain ⟨next, _, advanced⟩ := fails.advance
    rw [advanced, settled_stale current, proceed_tracking, tracking]
  constructor
  · rintro ⟨other, within, pursued⟩
    rw [newest] at pursued
    have goesOn : other.pursued? ≠ none := by simp [pursued]
    obtain ⟨stood, _⟩ := (fails.mem_advance_of_stale distinct member current goesOn).mp within
    have older : setback.epoch ≤ provider.tracking.epoch :=
      reachable.isTimely.pursued strand member _ (Strand.pursued?_of_connects connects)
    rw [tracking] at current ⊢
    exact .inr ⟨other, stood, reachable.isPatient strand member _ token connects held other stood _
      pursued (Nat.lt_of_le_of_ne older (Ne.symm current))⟩
  · rintro (same | ⟨other, stood, call, due, checks⟩)
    · exact absurd same current
    · have pursued : other.pursued? = some setback.instant.tracking.epoch :=
        Strand.pursued?_waiting checks
      have different : other ≠ strand := by
        rintro rfl
        obtain ⟨_, _, _, _, waits, _⟩ := Strand.call_of_connects connects
        cases waits.symm.trans checks
      refine ⟨other, ?_, by rw [newest, pursued, tracking]⟩
      exact (fails.mem_advance_of_stale distinct member current (by simp [pursued])).mpr
        ⟨stood, different⟩

def connectingFirst : Provider SimulatedBench :=
  let failing : SimulatedDevice :=
    { latency := 20, nextFailure := some (.wallet (.ofCode .timeout)) }
  ((ofBench { device := failing }).setHost
    { paired := [(.webHid, { vendorId := 0x2c97, productId := 1 })] }).begun
      (.selectAccount (.ofWallet .ledger "0x1"))

def slowConnect : Strand where
  id := 0
  duty := .caller (.selectAccount (.ofWallet .ledger "0x1"))
  call := some
    (.autoConnect 1 (.ofWallet .ledger "0x1") .accountChanged (.connecting 1 .ledger "1" 0), 20)

theorem connectingFirst_run : ∃ first : Provider SimulatedBench, first.IsFresh ∧
    Relation.ReflTransGen (Transition fun _ _ => True) first connectingFirst :=
  ⟨_, ofBench_isFresh _, .trans (.single (.onHost _ _)) (begun_run _ _)⟩

theorem failed_connect_is_pursued_iff_connectingFirst :
    ∃ setback, { connectingFirst with now := 20 }.Fails slowConnect setback ∧
      setback.IsRetried ({ connectingFirst with now := 20 }.advance slowConnect) ∧
      ({ connectingFirst with now := 20 }.advance slowConnect).IsPursued := by
  obtain ⟨first, fresh, run⟩ := connectingFirst_run
  have reachable : Reachable (fun _ _ => True) { connectingFirst with now := 20 } :=
    ⟨first, fresh.toIsNew, run.tail (.wait _ 20 (by decide))⟩
  have member : slowConnect ∈ connectingFirst.strands := .head _
  have fails : { connectingFirst with now := 20 }.Fails slowConnect _ :=
    .waited 1 _ _ _ 20 (.ofCode .timeout) rfl rfl
  obtain ⟨pursued, retried⟩ := failed_connect_is_pursued_iff reachable member fails rfl (by decide)
  exact ⟨_, fails, retried rfl, pursued.mpr (.inl rfl)⟩

/-- Another account of the same wallet has been selected before the connect fails. -/
def selectedMeanwhile : Provider SimulatedBench :=
  { connectingFirst.begun (.selectAccount (.ofWallet .ledger "0x2")) with now := 20 }

theorem failed_connect_is_forgotten :
    ∃ first : Provider SimulatedBench, ∃ setback, first.IsFresh ∧
      Relation.ReflTransGen (Transition fun _ _ => True) first selectedMeanwhile ∧
      slowConnect ∈ selectedMeanwhile.strands ∧ selectedMeanwhile.canMove slowConnect = true ∧
      selectedMeanwhile.Fails slowConnect setback ∧ setback.error.isUserRejection = false ∧
      setback.instant.policy.enabled = true ∧ setback.instant.isCancelled = false ∧
      setback.account.wallet? = some .ledger ∧ setback.instant.wallet? = some .ledger ∧
      setback.instant.tracking.retries < setback.instant.policy.retryLimit ∧
      ¬(selectedMeanwhile.advance slowConnect).IsPursued ∧
      (selectedMeanwhile.advance slowConnect).eligible? 2 .accountChanged =
        some (.ledger, .ofWallet .ledger "0x2") := by
  obtain ⟨first, fresh, run⟩ := connectingFirst_run
  have fails : selectedMeanwhile.Fails slowConnect _ :=
    .waited 1 _ _ _ 20 (.ofCode .timeout) rfl rfl
  refine ⟨first, _, fresh, (run.trans (begun_run _ _)).tail (.wait _ 20 (by decide)), .head _, rfl,
    fails, rfl, rfl, rfl, rfl, rfl, by decide, ?_, rfl⟩
  have nothing : ∀ strand ∈ (selectedMeanwhile.advance slowConnect).strands,
      strand.pursued? ≠ some 2 := by decide
  exact fun ⟨strand, member, pursued⟩ => nothing strand member pursued

end Provider

end SignerLink
