import SignerLink.Proofs.Provider.Ended
import SignerLink.Proofs.Provider.Simulation
/-!
Shutting a provider down. The adapter is destroyed at once, and what was under way or is asked for
later shows nothing, creates nothing and is answered that it came to nothing.
-/

namespace SignerLink

def Request.Awaits : Request → Call → Prop
  | .connect _ _, call => ∃ attempt, call = .attempt attempt
  | .makeReady _ _, call => ∃ readiness, call = .readiness readiness
  | _, _ => True

namespace Provider

variable {Bench : Type} [AdapterBench Bench] {evolves : Bench → Bench → Prop}
  {provider before after : Provider Bench}

/-! Where callers wait. -/

theorem awaits_of_map {Waiting Outcome : Type} {progress : Progress Waiting Outcome}
    {wrap : Waiting → Call} {report : Outcome → Reply} {call : Call} {milliseconds : Nat}
    (waits : progress.map wrap report = .waiting call milliseconds) :
    ∃ waiting, call = wrap waiting := by
  cases progress with
  | waiting waiting _ =>
      cases waits
      exact ⟨waiting, rfl⟩
  | finished outcome => cases waits

theorem begin_awaits {request : Request} {call : Call} {milliseconds : Nat}
    (waits : (provider.begin request).2 = .waiting call milliseconds) : request.Awaits call := by
  cases request with
  | connect wallet deviceId =>
      simp only [begin, connect] at waits
      split at waits
      · cases waits
      · exact awaits_of_map waits
  | makeReady wallet deviceId =>
      simp only [begin] at waits
      split at waits
      · cases waits
      · simp only [makeReady] at waits
        split at waits
        · cases waits
        · exact awaits_of_map waits
        · exact awaits_of_map waits
  | disconnect | retry | operate _ | checkPermission _ | requestPermission _ | selectAccount _
  | plugEvent _ | shutdown | askHost _ | sleep _ | join _ => trivial

theorem resume_awaits {request : Request} {former call : Call} {milliseconds : Nat}
    (awaited : request.Awaits former)
    (waits : (provider.resume former).2 = .waiting call milliseconds) : request.Awaits call := by
  cases request with
  | connect wallet deviceId =>
      obtain ⟨attempt, rfl⟩ := awaited
      exact awaits_of_map waits
  | makeReady wallet deviceId =>
      obtain ⟨readiness, rfl⟩ := awaited
      exact awaits_of_map waits
  | disconnect | retry | operate _ | checkPermission _ | requestPermission _ | selectAccount _
  | plugEvent _ | shutdown | askHost _ | sleep _ | join _ => trivial

def IsApt (provider : Provider Bench) : Prop :=
  ∀ strand ∈ provider.strands, ∀ request, strand.duty = .caller request →
    ∀ call due, strand.call = some (call, due) → request.Awaits call

theorem Transition.isApt (transition : Transition evolves before after) (apt : before.IsApt) :
    after.IsApt := by
  intro strand member request asks call due waits
  rcases transition.stands member with
    stood | idle | ⟨former, next, work, call, milliseconds, due, present, _, _, takes, left, same⟩
  · exact apt strand stood request asks call due waits
  · rw [idle] at waits
    cases waits
  · subst same
    cases waits
    obtain ⟨asked, ⟨_, rfl⟩ | ⟨earlier, due, waited, rfl⟩⟩ := work?_caller takes asks
    · exact begin_awaits left
    · exact resume_awaits (apt former present request asked earlier due waited) left

theorem IsNew.isApt {first : Provider Bench} (new : first.IsNew)
    (run : Relation.ReflTransGen (Transition evolves) first provider) : provider.IsApt := by
  induction run with
  | refl =>
      intro strand member
      rw [new.strands] at member
      cases member
  | tail _ transition ih => exact transition.isApt ih

/-! Answers. -/

/-- In its turn the strand answers its caller, and it is gone. -/
structure Answers (provider : Provider Bench) (strand : Strand) (reply : Reply) : Prop where
  replied : (provider.advance strand).letGo.replies = provider.replies ++ [(strand.id, reply)]
  gone : (provider.advance strand).letGo.isAlive strand.id = false

theorem letGo_replies : provider.letGo.replies = provider.replies := by
  simp only [letGo]
  split
  next => rfl
  next => split <;> split <;> rfl

theorem answers_of_work {strand : Strand} {work : Work} {request : Request} {reply : Reply}
    (takes : provider.work? strand = some (work, strand)) (asks : strand.duty = .caller request)
    (step : (provider.perform work).2 = .finished reply)
    (same : (provider.perform work).1.replies = provider.replies) :
    provider.Answers strand reply := by
  have turned : provider.advance strand =
      { (provider.perform work).1.remove strand.id with
        replies := provider.replies ++ [(strand.id, reply)] } := by
    simp only [advance_of_work takes, step, proceed, asks, same]
  constructor
  · rw [letGo_replies, turned]
  · simp [isAlive, letGo_strands, turned, remove]

section Over

variable {strand : Strand} {wallet : Wallet} {deviceId : Option String}

variable [CountingBench Bench] (isOver : provider.IsOver) (apt : provider.IsApt)
  (member : strand ∈ provider.strands)

include isOver apt member

theorem IsOver.connect_answers (asks : strand.duty = .caller (.connect wallet deviceId)) :
    provider.Answers strand (.attempt .aborted) := by
  cases waits : strand.call with
  | none =>
      have refused := connect_over isOver.session wallet deviceId
      refine answers_of_work (work?_begin waits asks) asks ?_ ?_
      · exact congrArg Prod.snd refused
      · exact congrArg (fun result => result.1.replies) refused
  | some waiting =>
      obtain ⟨call, due⟩ := waiting
      obtain ⟨attempt, rfl⟩ := apt strand member _ asks call due waits
      have interrupted := Connection.resumeAttempt_interrupted (.inl isOver.session) attempt
      have aborted : provider.connection.interruptedOutcome = .aborted := if_pos isOver.session
      refine answers_of_work (work?_resume waits) asks ?_ rfl
      simp only [perform, resume, interrupted, aborted]
      rfl

theorem IsOver.makeReady_answers {chosen : Option Wallet}
    (asks : strand.duty = .caller (.makeReady chosen deviceId))
    (hardware : strand.call.isSome ∨ (chosen <|> provider.wallet?).isSome) :
    provider.Answers strand (.answered false) := by
  cases waits : strand.call with
  | none =>
      obtain ⟨wallet, known⟩ :=
        Option.isSome_iff_exists.mp (hardware.resolve_left (by simp [waits]))
      have refused : provider.begin (.makeReady chosen deviceId) =
          (provider, .finished (.answered false)) := by
        simp only [begin, known, makeReady_over isOver.session]
      refine answers_of_work (work?_begin waits asks) asks ?_ ?_
      · exact congrArg Prod.snd refused
      · exact congrArg (fun result => result.1.replies) refused
  | some waiting =>
      obtain ⟨call, due⟩ := waiting
      obtain ⟨readiness, rfl⟩ := apt strand member _ asks call due waits
      have unready := Connection.resumeReadiness_interrupted (.inl isOver.session) readiness
      refine answers_of_work (work?_resume waits) asks ?_ rfl
      simp only [perform, resume, unready]
      rfl

end Over

/-! The turn that shuts the provider down. -/

theorem shutdown_ends : provider.shutdown.1.isCancelled = true := by
  simp only [shutdown]
  split
  next ended => exact ended
  next =>
    simp only [join]
    split <;> simp [isCancelled, setConnection, cancel, stopListening, setTracking,
      Connection.cancel]

theorem shutdown_bare (live : provider.isCancelled = false) :
    provider.shutdown.1.connection.session.adapter = none := by
  simp only [shutdown, live, Bool.false_eq_true, if_false, join]
  split <;> simp [setConnection]

theorem letGo_bare (bare : provider.connection.session.adapter = none) :
    provider.letGo.connection.session.adapter = none := by
  have closed {provider : Provider Bench} (bare : provider.connection.session.adapter = none) :
      (if provider.isConnectionKept then provider
        else provider.setConnection provider.connection.closeInbox).connection.session.adapter =
          none := by
    split <;> exact bare
  simp only [letGo]
  split
  next => exact bare
  next =>
    split
    next => exact closed (by simp [setConnection])
    next => exact closed bare

variable [CountingBench Bench] [LivingBench Bench]

/-- What is true for good of a session that was shut down: nothing else is shown, nothing is
created, and whoever connects or makes a device ready is told that it came to nothing. -/
structure IsFrozen (before after : Provider Bench) : Prop where
  connection : after.connection.published = before.connection.published
  permission : after.permission.published = before.permission.published
  created : CountingBench.created after.connection.bench =
    CountingBench.created before.connection.bench
  connects : ∀ strand ∈ after.strands, ∀ wallet deviceId,
    strand.duty = .caller (.connect wallet deviceId) →
      after.Answers strand (.attempt .aborted)
  readies : ∀ strand ∈ after.strands, ∀ wallet deviceId,
    strand.duty = .caller (.makeReady wallet deviceId) →
      strand.call.isSome ∨ (wallet <|> after.wallet?).isSome →
      after.Answers strand (.answered false)

theorem IsNew.holdsEveryLive {first : Provider Bench} (new : first.IsNew)
    (vacant : ∀ id, ¬LivingBench.IsLive first.connection.bench id)
    (run : Relation.ReflTransGen (Transition LivingBench.evolves) first provider) :
    provider.Distinct ∧ provider.run.situation.HoldsEveryLive := by
  obtain ⟨distinct, steps⟩ := new.simulates run
  refine ⟨distinct, ?_⟩
  exact steps.keep Situation.HoldsEveryLive LivingBench.serves
    (fun move => move.holdsEveryLive And.right) (Run.start_holdsEveryLive vacant)

/-- Once a provider has shut down, nothing that was under way and nothing that is asked of it later
changes the connection or the permission that it shows, or creates an adapter; if the session had
not been over before, no adapter is left. -/
theorem shutdown_freezes {first later : Provider Bench} {strand : Strand} (fresh : first.IsFresh)
    (vacant : ∀ id, ¬LivingBench.IsLive first.connection.bench id)
    (run : Relation.ReflTransGen (Transition LivingBench.evolves) first provider)
    (member : strand ∈ provider.strands) (begins : strand.call = none)
    (asks : strand.duty = .caller .shutdown)
    (goesOn : Relation.ReflTransGen (Afterwards LivingBench.evolves)
      (provider.advance strand).letGo later) :
    IsFrozen (provider.advance strand).letGo later ∧
      (provider.isCancelled = false →
        ∀ id, ¬LivingBench.IsLive later.connection.bench id) := by
  have ready : provider.canMove strand = true := by simp only [canMove, begins, asks]
  have turned : (provider.advance strand).connection = provider.shutdown.1.connection := by
    rw [advance_of_work (work?_begin begins asks), proceed_connection]
    rfl
  have ended : (provider.advance strand).letGo.isCancelled = true := by
    refine (letGo_stays (provider.advance strand)).connection.ended ?_
    rw [turned]
    exact shutdown_ends
  have began := run.tail (.advance provider strand member ready)
  have isOver := (fresh.orderly_run began).isOver ended
  have continued : Relation.ReflTransGen (Transition LivingBench.evolves)
      (provider.advance strand).letGo later :=
    Relation.ReflTransGen.mono (fun _ _ => Afterwards.transition) _ _ goesOn
  obtain ⟨stays, still⟩ := isOver.stays And.left goesOn
  have apt := fresh.toIsNew.isApt (began.trans continued)
  constructor
  · constructor
    case connection => exact stays.connection.published
    case permission => exact stays.permission
    case created => exact stays.connection.created
    case connects =>
      intro other present wallet deviceId asked
      exact still.connect_answers apt present asked
    case readies =>
      intro other present wallet deviceId asked hardware
      exact still.makeReady_answers apt present asked hardware
  · intro live id alive
    obtain ⟨distinct, _⟩ := fresh.toIsNew.holdsEveryLive vacant began
    obtain ⟨_, holds⟩ := fresh.toIsNew.holdsEveryLive vacant (began.trans continued)
    have bare : (provider.advance strand).letGo.connection.session.adapter = none := by
      refine letGo_bare ?_
      rw [turned]
      exact shutdown_bare live
    have closed : later.run.situation.OverWithoutAdapter :=
      (distinct.simulates continued).steps.keep Situation.OverWithoutAdapter LivingBench.serves
        (fun move => move.overWithoutAdapter) ⟨ended, bare⟩
    have held := holds.held id alive
    rw [closed.bare] at held
    cases held

def unpluggedAfterShutdown : Provider SimulatedBench :=
  let provider := { connectingSlowly.begun .shutdown with now := 5 }
  provider.setConnection (provider.connection.onBench (SimulatedBench.setPresent · false))

def connectingAfterShutdown : Provider SimulatedBench :=
  unpluggedAfterShutdown.asking (.connect .ledger none)

theorem shutdown_freezes_connectingSlowly :
    LivingBench.IsLive connectingSlowly.connection.bench 0 ∧
    connectingAfterShutdown.connection.state = .connecting ∧
    (∀ id, ¬LivingBench.IsLive connectingAfterShutdown.connection.bench id) ∧
    connectingAfterShutdown.Answers slowAttempt (.attempt .aborted) ∧
    connectingAfterShutdown.Answers (unpluggedAfterShutdown.asker (.connect .ledger none))
      (.attempt .aborted) := by
  have fresh := ofBench_isFresh { device := { latency := 5 } }
  have vacant : ∀ id, ¬LivingBench.IsLive
      (ofBench { device := { latency := 5 } }).connection.bench id := by
    intro id live
    cases live
  have run : Relation.ReflTransGen (Transition LivingBench.evolves)
      (ofBench { device := { latency := 5 } }) (connectingSlowly.asking .shutdown) :=
    .tail (begun_run _ _) (.request connectingSlowly .shutdown)
  have member : connectingSlowly.asker .shutdown ∈ (connectingSlowly.asking .shutdown).strands :=
    List.mem_append_right _ (List.mem_singleton_self _)
  have waited : Relation.ReflTransGen (Afterwards LivingBench.evolves)
      (connectingSlowly.begun .shutdown) { connectingSlowly.begun .shutdown with now := 5 } :=
    .single (.remains (.wait _ 5 (by decide)))
  have unplugged := waited.tail
    (.remains (.onBench _ (SimulatedBench.setPresent · false)
      (SimulatedBench.setDevice_evolves _ _)))
  have goesOn := unplugged.tail (.remains (.request _ (.connect .ledger none)))
  obtain ⟨frozen, gone⟩ := shutdown_freezes fresh vacant run member rfl rfl goesOn
  refine ⟨rfl, rfl, gone rfl, ?_, ?_⟩
  · exact frozen.connects _ (.head _) _ _ rfl
  · exact frozen.connects _ (.tail _ (.head _)) _ _ rfl

end Provider

end SignerLink
