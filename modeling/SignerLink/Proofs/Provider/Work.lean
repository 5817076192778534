import SignerLink.Proofs.Provider.Edits
/-!
What each piece of a provider's work does to the connection: it takes up calls that waited, goes
through steps of the connection, and leaves other calls waiting.
-/

namespace SignerLink

namespace Provider

variable {Bench : Type} [AdapterBench Bench]

/-- No two strands have the same number, and the next one has another. -/
structure Distinct (provider : Provider Bench) : Prop where
  nodup : (provider.strands.map Strand.id).Nodup
  below : ∀ strand ∈ provider.strands, strand.id < provider.nextStrand

/-- What one piece of work does: on the connection it goes from calls that it takes up to calls
that it leaves waiting, and the strands that it spawns have not begun. -/
structure Acts (evolves : Bench → Bench → Prop) (before : Provider Bench)
    (taken : Multiset ConnectionCall) (after : Provider Bench)
    (left : Multiset ConnectionCall) : Prop where
  strands : ∃ spawned, after.strands = before.strands ++ spawned ∧
    ∀ strand ∈ spawned, strand.onConnection = 0
  distinct : before.Distinct → after.Distinct
  steps : ∀ others, Run.Steps evolves ⟨before.connection, taken + others, before.isCancelled⟩
    ⟨after.connection, left + others, after.isCancelled⟩

abbrev Does (evolves : Bench → Bench → Prop) (before : Provider Bench)
    (taken : Multiset ConnectionCall) (result : Provider Bench × Step) : Prop :=
  Acts evolves before taken result.1 result.2.onConnection

variable {evolves : Bench → Bench → Prop} {before middle after provider : Provider Bench}
  {taken between left : Multiset ConnectionCall}

namespace Acts

theorem trans (first : Acts evolves before taken middle between)
    (rest : Acts evolves middle between after left) : Acts evolves before taken after left where
  strands := by
    obtain ⟨some, same, new⟩ := first.strands
    obtain ⟨more, later, newer⟩ := rest.strands
    refine ⟨some ++ more, by rw [later, same, List.append_assoc], ?_⟩
    intro strand member
    rcases List.mem_append.mp member with member | member
    · exact new strand member
    · exact newer strand member
  distinct := rest.distinct ∘ first.distinct
  steps others := (first.steps others).trans (rest.steps others)

theorem aside (connection : after.connection = before.connection)
    (strands : after.strands = before.strands) (next : after.nextStrand = before.nextStrand) :
    Acts evolves before taken after taken where
  strands := ⟨[], by simp [strands], by simp⟩
  distinct given := ⟨strands ▸ given.nodup, strands ▸ next ▸ given.below⟩
  steps others := by
    rw [isCancelled, isCancelled, connection]

theorem refl : Acts evolves provider taken provider taken := aside rfl rfl rfl

theorem spawned (duty : Duty) : Acts evolves provider taken (provider.spawn duty).1 taken where
  strands := by
    refine ⟨[{ id := provider.nextStrand, duty := duty }], rfl, ?_⟩
    intro strand member
    rw [List.mem_singleton.mp member]
    rfl
  distinct given := by
    constructor
    · simp only [spawn, List.map_append, List.map_cons, List.map_nil]
      refine List.nodup_append.mpr ⟨given.nodup, List.nodup_singleton _, ?_⟩
      intro id old other new same
      obtain ⟨strand, member, rfl⟩ := List.mem_map.mp old
      rw [List.mem_singleton.mp new] at same
      exact Nat.ne_of_lt (given.below strand member) same
    · intro strand member
      simp only [spawn, List.mem_append, List.mem_singleton] at member ⊢
      rcases member with member | rfl
      · exact Nat.lt_succ_of_lt (given.below strand member)
      · exact Nat.lt_succ_self _
  steps _ := .refl

theorem through {connection : Connection Bench}
    (steps : ∀ others, Run.Steps evolves ⟨provider.connection, taken + others, provider.isCancelled⟩
      ⟨connection, left + others, connection.cancelled⟩) :
    Acts evolves provider taken (provider.setConnection connection) left where
  strands := ⟨[], (List.append_nil _).symm, by simp⟩
  distinct given := ⟨given.nodup, given.below⟩
  steps := steps

theorem begun (request : ConnectionRequest) :
    Acts evolves provider 0 (provider.setConnection (provider.connection.begin request).1)
      (provider.connection.begin request).2.calls := by
  refine through fun others => .single ?_
  have step : Run.Step evolves ⟨provider.connection, 0 + others, provider.isCancelled⟩ _ :=
    .begin _ request
  rw [Connection.begin_cancelled]
  simpa [Run.begin, isCancelled] using step

theorem resumed (call : ConnectionCall) :
    Acts evolves provider {call} (provider.setConnection (provider.connection.resume call).1)
      (provider.connection.resume call).2.calls := by
  refine through fun others => .single ?_
  rw [Connection.resume_cancelled]
  exact .resume provider.connection call others provider.isCancelled

theorem reacted (event : ConnectionEvent) (goesOn : event.isEnd = false) :
    Acts evolves provider taken (provider.setConnection (provider.connection.react event))
      taken := by
  refine through fun others => .single ?_
  have step : Run.Step evolves ⟨provider.connection, taken + others, provider.isCancelled⟩ _ :=
    .react _ event
  rw [Connection.react_cancelled goesOn]
  simpa [Run.react, isCancelled, goesOn] using step

theorem cancelled : Acts evolves provider taken provider.cancel taken where
  strands := ⟨[], (List.append_nil _).symm, by simp⟩
  distinct given := ⟨given.nodup, given.below⟩
  steps others := by
    have step : Run.Step evolves ⟨provider.connection, taken + others, provider.isCancelled⟩ _ :=
      .react _ .cancel
    simp only [Run.react, ConnectionEvent.isEnd, Bool.or_true] at step
    exact .single step

theorem tornDown (ended : provider.isCancelled = true) :
    Acts evolves provider taken (provider.setConnection provider.connection.teardown) taken := by
  refine .through fun others => .single ?_
  have step : Run.Step evolves ⟨provider.connection, taken + others, provider.isCancelled⟩ _ :=
    .react _ .teardown
  have still : provider.connection.teardown.cancelled = true := by
    rw [Connection.teardown_cancelled]
    exact ended
  simp only [Run.react, ConnectionEvent.isEnd, Bool.or_true] at step
  rw [still]
  exact step

end Acts

theorem Edit.acts {kind : EditKind} (apart : kind ≠ .request) (edit : Edit kind before after) :
    Acts evolves before taken after taken := by
  cases edit with
  | forward _ _ | listen _ _ | putOff _ _ _ _ => exact .spawned _
  | react _ event goesOn => exact .reacted event goesOn
  | cancel _ => exact .cancelled
  | tearDown _ ended => exact .tornDown ended
  | begin _ _ | resume _ _ => exact absurd rfl apart
  | ask _ _ _ | subscribe _ _ | record _ _ | dismiss _ | permit _ _ _ _ | count _ _ _ =>
      exact .aside rfl rfl rfl

theorem Edits.acts {kinds : List EditKind} (edits : before.Edits kinds after)
    (apart : .request ∉ kinds) : Acts evolves before taken after taken :=
  edits.keeps (fun before after => Acts evolves before taken after taken) (fun _ => .refl) .trans
    fun _ member => Edit.acts fun same => apart (same ▸ member)

theorem Errand.does {result : Provider Bench × Step} (errand : Errand provider taken result) :
    Does evolves provider taken result := by
  cases errand with
  | host _ _ free =>
      rw [Does, free]
      exact .aside rfl rfl rfl
  | begin request _ _ calls =>
      have asked (host : MemoryHost) :
          Acts evolves provider 0 (provider.setHost host) 0 := .aside rfl rfl rfl
      rw [Does, calls]
      exact (asked _).trans (.begun request)
  | resume call _ calls =>
      rw [Does, calls]
      exact .resumed call

/-! Evaluation. -/

theorem followAttempt_does (epoch : Nat) (account : Account) (trigger : Trigger)
    (progress : Connection.AttemptProgress) :
    Does evolves provider (progress.map ConnectionCall.attempt ConnectionReply.attempt).calls
      (provider.followAttempt epoch account trigger progress) := by
  cases progress with
  | waiting call milliseconds => exact .refl
  | finished outcome => exact (settle_edits epoch account trigger outcome).acts (by decide)

theorem autoConnect_does (epoch : Nat) (trigger : Trigger) (deviceId : String) :
    Does evolves provider 0 (provider.autoConnect epoch trigger deviceId) := by
  simp only [autoConnect]
  split
  next => exact .refl
  next wallet account _ =>
    exact (Acts.begun (.connect wallet (.device deviceId))).trans
      (followAttempt_does epoch account trigger _)

theorem searched_does (epoch : Nat) (found : DeviceSearch) :
    Does evolves provider 0 (provider.searched epoch found) := by
  simp only [searched]
  split
  next =>
    split
    next => exact autoConnect_does _ _ _
    next => exact .refl
  next => exact .refl

theorem evaluate_does (epoch : Nat) (trigger : Trigger) :
    Does evolves provider 0 (provider.evaluate epoch trigger) := by
  simp only [evaluate]
  split
  next => exact .refl
  next wallet _ _ =>
    split
    next => exact autoConnect_does _ _ _
    next =>
      have asked : Acts evolves provider 0
          (provider.setHost (provider.host.inquire wallet).1) 0 := .aside rfl rfl rfl
      split
      next => exact asked.trans (searched_does _ _)
      next => exact asked

/-! Account selections and plug events. -/

theorem accountChecked_does (epoch : Nat) (call : PermissionCall) :
    Does evolves provider 0 (provider.accountChecked epoch call) := by
  have committed : Acts evolves provider 0
      (provider.setPermission (provider.permission.commit call)) 0 := .aside rfl rfl rfl
  simp only [accountChecked]
  split
  next => exact committed.trans (evaluate_does _ _)
  next => exact committed

theorem attachChecked_does (epoch : Nat) (deviceId : String) (call : PermissionCall) :
    Does evolves provider 0 (provider.attachChecked epoch deviceId call) := by
  have committed : Acts evolves provider 0
      (provider.setPermission (provider.permission.commit call)) 0 := .aside rfl rfl rfl
  simp only [attachChecked]
  split
  next =>
    have restarted : Acts evolves provider 0
        ((provider.setPermission (provider.permission.commit call)).setTracking
          { provider.tracking with retries := 0 }) 0 := .aside rfl rfl rfl
    exact restarted.trans (evaluate_does _ _)
  next => exact committed

theorem selectAccount_does (account : Account) :
    Does evolves provider 0 (provider.selectAccount account) := by
  simp only [selectAccount]
  split
  next => exact .refl
  next =>
    have tracked : Acts evolves provider 0 (provider.track account) 0 := .aside rfl rfl rfl
    split
    next => exact tracked.trans (release_edits.acts (by decide))
    next wallet _ =>
      have turned := tracked.trans ((turnTo_edits wallet).acts (by decide))
      have checked := turned.trans ((beginCheck_edits wallet).acts (by decide))
      split
      next => exact checked.trans (accountChecked_does _ _)
      next => exact checked

theorem plugEvent_does (event : PlugEvent) :
    Does evolves provider 0 (provider.plugEvent event) := by
  simp only [plugEvent]
  split
  next => exact .refl
  next =>
    split
    next => exact .refl
    next wallet _ =>
      split
      next device =>
        split
        next => exact .reacted (.lost none) rfl
        next => exact .refl
      next device =>
        split
        next => exact .refl
        next =>
          have checked : Acts evolves provider 0 (provider.beginCheck wallet).1 0 :=
            (beginCheck_edits wallet).acts (by decide)
          split
          next => exact checked.trans (attachChecked_does _ _ _)
          next => exact checked

/-! Requests and calls. -/

theorem checkPermission_does (wallet : Wallet) :
    Does evolves provider 0 (provider.checkPermission wallet) := by
  simp only [checkPermission]
  split <;> exact .aside rfl rfl rfl

theorem requestPermission_does (wallet : Wallet) :
    Does evolves provider 0 (provider.requestPermission wallet) := by
  simp only [requestPermission]
  split <;> exact .aside rfl rfl rfl

theorem shutdown_does : Does evolves provider 0 provider.shutdown := by
  simp only [shutdown]
  split
  next => exact .refl
  next =>
    have stopped : Acts evolves provider 0 provider.cancel.stopListening 0 :=
      Acts.cancelled.trans (.aside rfl rfl rfl)
    exact (stopped.trans (.tornDown rfl)).trans (join_errand _ _).does

theorem begin_does (request : Request) : Does evolves provider 0 (provider.begin request) := by
  cases request with
  | selectAccount account => exact selectAccount_does account
  | plugEvent event => exact plugEvent_does event
  | shutdown => exact shutdown_does
  | checkPermission wallet =>
      simp only [begin]
      split
      next => exact .refl
      next wallet _ => exact checkPermission_does wallet
  | requestPermission wallet =>
      simp only [begin]
      split
      next => exact .refl
      next wallet _ => exact requestPermission_does wallet
  | _ => exact (begin_errand rfl).does

theorem resume_does (call : Call) :
    Does evolves provider call.onConnection (provider.resume call) := by
  cases call with
  | autoConnect epoch account trigger call =>
      exact (Acts.resumed (.attempt call)).trans (followAttempt_does epoch account trigger _)
  | permission call reply selection => exact .aside rfl rfl rfl
  | accountCheck epoch call => exact accountChecked_does epoch call
  | attachCheck epoch deviceId call => exact attachChecked_does epoch deviceId call
  | search epoch found => exact searched_does epoch found
  | _ => exact (resume_errand rfl).does

/-! What the application starts and lets go of. -/

theorem drop_acts : Acts evolves provider taken provider.drop taken := by
  have released : Acts evolves provider taken { provider with held := false } taken :=
    .aside rfl rfl rfl
  exact released.trans (letGo_edits.acts (by decide))

theorem startPump_acts : Acts evolves provider taken provider.startPump.1 taken := by
  simp only [startPump]
  split
  next => exact .refl
  next =>
    have started : Acts evolves provider taken { provider with pumpStarted := true } taken :=
      .aside rfl rfl rfl
    exact started.trans (.spawned _)

theorem publishAccount_acts (store : Nat) (account : Account) :
    Acts evolves provider taken (provider.publishAccount store account) taken := by
  simp only [publishAccount]
  split <;> exact .aside rfl rfl rfl

end Provider

end SignerLink
