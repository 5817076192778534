import SignerLink.Adapter.Simulated
import SignerLink.Proofs.Provider.Silence
/-!
Selecting an account that is kept in software. The provider gives everything up for it at once, and
none of the work that it had begun can bring anything back. A provider that was shut down pays no
attention to selections.
-/

namespace SignerLink

theorem PermissionGate.reset_state {gate : PermissionGate} (live : gate.cancelled = false) :
    gate.reset.state = .unknown := by
  simp only [reset, commit, begin, live, bne_self_eq_false, Bool.false_or]
  split
  next same => exact eq_of_beq same
  next => rfl

namespace Provider

variable {Bench : Type} {provider : Provider Bench}

def selection? (provider : Provider Bench) (strand : Strand) : Option Account :=
  match provider.work? strand with
  | some (.begin _ (.selectAccount account), _) => some account
  | _ => none

/-- A provider that has begun nothing and has asked for no permission. -/
structure IsFresh (provider : Provider Bench) : Prop extends IsNew provider where
  permission : provider.permission = {}

structure IsReleased (provider : Provider Bench) : Prop where
  disconnected : provider.connection.state = .disconnected
  empty : provider.connection.session = {}
  permission : provider.permission.state = .unknown
  completedFor : provider.tracking.completedFor = none
  listener : provider.tracking.listener = none

/-! Permission calls are numbered, and the gate ends with the session. -/

structure IsOrderly (provider : Provider Bench) : Prop where
  cancelled : provider.permission.cancelled = provider.isCancelled
  numbered : ∀ strand ∈ provider.strands, ∀ asked, strand.asked? = some asked →
    asked.number ≤ provider.permission.latest

theorem IsFresh.isOrderly (fresh : provider.IsFresh) : provider.IsOrderly where
  cancelled := by
    rw [fresh.permission, isCancelled, fresh.connection]
  numbered := by
    intro strand member
    rw [fresh.strands] at member
    cases member

variable [AdapterBench Bench]

theorem Transition.isOrderly {before after : Provider Bench} {evolves : Bench → Bench → Prop}
    (transition : Transition evolves before after) (orderly : before.IsOrderly) :
    after.IsOrderly where
  cancelled := transition.ages.agree orderly.cancelled
  numbered := by
    intro strand member asked asks
    rcases transition.stands member with
      stood | idle | ⟨former, next, work, call, milliseconds, due, _, _, moved, takes, waits, same⟩
    · exact (orderly.numbered strand stood asked asks).trans transition.ages.latest
    · rw [Strand.asked?_idle idle] at asks
      cases asks
    · have permission : (before.perform work).2.asked? = some asked := by
        rw [waits]
        rw [same] at asks
        exact asks
      have bound := before.perform_numbered work asked permission
      have kept : (before.advance former).permission = (before.perform work).1.permission := by
        rw [advance_of_work takes, proceed_permission]
      rw [moved]
      rw [← kept] at bound
      exact bound.trans letGo_ages.latest

theorem IsFresh.orderly_run {first : Provider Bench} {evolves : Bench → Bench → Prop}
    (fresh : first.IsFresh) (run : Relation.ReflTransGen (Transition evolves) first provider) :
    provider.IsOrderly := by
  induction run with
  | refl => exact fresh.isOrderly
  | tail _ transition ih => exact transition.isOrderly ih

/-! The turn that selects the account. -/

section Selection

variable {strand : Strand} {account : Account}

theorem advance_of_selection (selects : provider.selection? strand = some account) :
    ∃ host next, provider.advance strand =
      ((provider.setHost host).selectAccount account).1.proceed next
        ((provider.setHost host).selectAccount account).2 := by
  simp only [selection?] at selects
  split at selects
  next host chosen next takes =>
    cases selects
    exact ⟨host, next, advance_of_work takes⟩
  next => cases selects

theorem selectAccount_over (ended : provider.isCancelled = true) :
    provider.selectAccount account = (provider, .finished .done) := by
  simp only [selectAccount, ended, Bool.true_or, if_true]

theorem selectAccount_software (live : provider.isCancelled = false)
    (other : account ≠ provider.tracking.account) (software : account.wallet? = none) :
    provider.selectAccount account = ((provider.track account).release, .finished .done) := by
  have changed : (provider.tracking.account == account) = false :=
    beq_eq_false_iff_ne.mpr (Ne.symm other)
  simp only [selectAccount, live, changed, software, Bool.or_false, Bool.false_eq_true, if_false]

theorem release_isSilent (orderly : provider.IsOrderly) (software : account.wallet? = none) :
    (provider.track account).release.IsSilent where
  unowned := .inr (Connection.reset_session _)
  unwanted := .inr software
  ignored := by
    intro strand member asked asks
    have bound : asked.number ≤ provider.permission.latest :=
      orderly.numbered strand member asked asks
    have next : (provider.track account).release.permission.latest =
        provider.permission.latest + 1 := PermissionGate.reset_latest _
    refine .inr ?_
    omega

theorem release_isReleased (orderly : provider.IsOrderly) (live : provider.isCancelled = false) :
    (provider.track account).release.IsReleased where
  disconnected := Connection.reset_state
  empty := Connection.reset_session _
  permission := PermissionGate.reset_state (orderly.cancelled.trans live)
  completedFor := rfl
  listener := rfl

variable [CountingBench Bench]

theorem IsReleased.of_stays {before after : Provider Bench} (released : before.IsReleased)
    (stays : before.Stays after) (listener : after.tracking.listener = before.tracking.listener) :
    after.IsReleased where
  disconnected := by
    rw [Connection.state, stays.connection.published]
    exact released.disconnected
  empty := stays.connection.empty released.empty
  permission := by
    rw [PermissionGate.state, stays.permission]
    exact released.permission
  completedFor := stays.completedFor.trans released.completedFor
  listener := listener.trans released.listener

omit [AdapterBench Bench] [CountingBench Bench] in
theorem IsOrderly.isSilent (orderly : provider.IsOrderly) (ended : provider.isCancelled = true) :
    provider.IsSilent where
  unowned := .inl ended
  unwanted := .inl ended
  ignored _ _ _ _ := .inl (orderly.cancelled.trans ended)

theorem IsSilent.answered (silent : provider.IsSilent) (reply : Reply) :
    (provider.proceed strand (.finished reply)).IsSilent := by
  refine silent.of_stays (.proceeded strand _) ?_ (Nat.le_of_eq ?_)
  · intro other member
    rcases mem_proceed member with stood | idle | ⟨_, _, waits, _⟩
    · exact .inl stood
    · exact .inr (Strand.asked?_idle idle)
    · cases waits
  · rw [proceed_permission]

theorem IsSilent.letGo (silent : provider.IsSilent) : provider.letGo.IsSilent := by
  refine silent.of_stays (letGo_stays _) ?_ letGo_ages.latest
  rw [AsksNothing, letGo_strands]
  exact fun _ member => .inl member

/-- Selecting an account that is kept in software releases the connection, the permission and the
account that was connected for; once the session is over it changes nothing. Either way, until the
user acts or another account is selected, none of the work begun before changes what is shown of
any of them, or creates an adapter. -/
theorem software_selection_silences {first : Provider Bench} (fresh : first.IsFresh)
    (run : Relation.ReflTransGen (Transition fun _ _ => True) first provider)
    (selects : provider.selection? strand = some account)
    (other : account ≠ provider.tracking.account) (software : account.wallet? = none) :
    (provider.isCancelled = false → (provider.advance strand).letGo.IsReleased) ∧
    (provider.isCancelled = true → provider.Stays (provider.advance strand).letGo) ∧
    ∀ later, Relation.ReflTransGen (Remains CountingBench.evolves)
        (provider.advance strand).letGo later →
      (provider.advance strand).letGo.Stays later := by
  obtain ⟨host, next, turned⟩ := advance_of_selection selects
  have known := fresh.orderly_run run
  have orderly : (provider.setHost host).IsOrderly := ⟨known.cancelled, known.numbered⟩
  have goesOn (silent : (provider.advance strand).IsSilent) (later : Provider Bench)
      (remaining : Relation.ReflTransGen (Remains CountingBench.evolves)
        (provider.advance strand).letGo later) : (provider.advance strand).letGo.Stays later :=
    (silent.letGo.stays remaining).1
  cases ended : provider.isCancelled with
  | false =>
      have live : (provider.setHost host).isCancelled = false := ended
      rw [selectAccount_software live other software] at turned
      have released : (provider.advance strand).IsReleased := by
        rw [turned]
        refine (release_isReleased orderly live).of_stays (.proceeded next _) ?_
        rw [proceed_tracking]
      refine ⟨fun _ => released.of_stays (letGo_stays _) ?_, by simp, goesOn ?_⟩
      · rw [letGo_tracking]
      · rw [turned]
        exact (release_isSilent orderly software).answered .done
  | true =>
      have gone : (provider.setHost host).isCancelled = true := ended
      rw [selectAccount_over gone] at turned
      refine ⟨by simp, fun _ => .trans ?_ (letGo_stays _), goesOn ?_⟩
      · rw [turned]
        exact (Stays.asked host).trans (.proceeded next _)
      · rw [turned]
        exact (orderly.isSilent gone).answered .done

end Selection

/-! Requests that begin at once. -/

def asking (provider : Provider Bench) (request : Request) : Provider Bench :=
  (provider.spawn (.caller request)).1

def asker (provider : Provider Bench) (request : Request) : Strand :=
  { id := provider.nextStrand, duty := .caller request }

def begun (provider : Provider Bench) (request : Request) : Provider Bench :=
  ((provider.asking request).advance (provider.asker request)).letGo

theorem begun_run {evolves : Bench → Bench → Prop} (provider : Provider Bench)
    (request : Request) :
    Relation.ReflTransGen (Transition evolves) provider (provider.begun request) := by
  have member : provider.asker request ∈ (provider.asking request).strands :=
    List.mem_append_right _ (List.mem_singleton_self _)
  exact .tail (.single (.request provider request)) (.advance _ _ member rfl)

def ofBench (bench : SimulatedBench) : Provider SimulatedBench :=
  { connection := { bench := bench } }

theorem ofBench_isFresh (bench : SimulatedBench) : (ofBench bench).IsFresh := ⟨⟨rfl, rfl⟩, rfl⟩

def inSoftware : Account := ⟨some "HD Key Tree", some "0x1"⟩

def connectingSlowly : Provider SimulatedBench :=
  (ofBench { device := { latency := 5 } }).begun (.connect .ledger (some "1"))

def slowAttempt : Strand where
  id := 0
  duty := .caller (.connect .ledger (some "1"))
  call := some (.attempt (.connecting 1 .ledger "1" 0), 5)

theorem software_selection_silences_connectingSlowly :
    connectingSlowly.connection.state = .connecting ∧
    (connectingSlowly.begun (.selectAccount inSoftware)).IsReleased ∧
    slowAttempt ∈ (connectingSlowly.begun (.selectAccount inSoftware)).strands ∧
    (connectingSlowly.begun (.selectAccount inSoftware)).Stays
      ({ connectingSlowly.begun (.selectAccount inSoftware) with now := 5 }.advance
        slowAttempt).letGo := by
  have run : Relation.ReflTransGen (Transition fun _ _ => True)
      (ofBench { device := { latency := 5 } })
      (connectingSlowly.asking (.selectAccount inSoftware)) :=
    .tail (begun_run _ _) (.request connectingSlowly (.selectAccount inSoftware))
  have selects : (connectingSlowly.asking (.selectAccount inSoftware)).selection?
      (connectingSlowly.asker (.selectAccount inSoftware)) = some inSoftware := rfl
  obtain ⟨released, _, silent⟩ :=
    software_selection_silences (ofBench_isFresh _) run selects (by decide) rfl
  have waits : slowAttempt ∈ (connectingSlowly.begun (.selectAccount inSoftware)).strands :=
    .head _
  refine ⟨rfl, released rfl, waits, silent _ ?_⟩
  refine .tail (.single (.wait _ 5 (by decide))) (.advance _ slowAttempt waits rfl ?_)
  intro work next takes
  cases takes
  trivial

def shutDown : Provider SimulatedBench :=
  ((ofBench {}).begun (.connect .ledger (some "1"))).begun .shutdown

theorem software_selection_after_shutdown :
    ∃ first : Provider SimulatedBench, first.IsFresh ∧
      Relation.ReflTransGen (Transition fun _ _ => True) first
        (shutDown.asking (.selectAccount inSoftware)) ∧
      (shutDown.asking (.selectAccount inSoftware)).selection?
        (shutDown.asker (.selectAccount inSoftware)) = some inSoftware ∧
      inSoftware ≠ (shutDown.asking (.selectAccount inSoftware)).tracking.account ∧
      inSoftware.wallet? = none ∧
      (shutDown.begun (.selectAccount inSoftware)).connection.state = .connected ∧
      ¬(shutDown.begun (.selectAccount inSoftware)).IsReleased := by
  have run : Relation.ReflTransGen (Transition fun _ _ => True) (ofBench {}) shutDown :=
    (begun_run _ _).trans (begun_run _ _)
  have shown : (shutDown.begun (.selectAccount inSoftware)).connection.state = .connected := rfl
  refine ⟨ofBench {}, ofBench_isFresh _, run.tail (.request shutDown _), rfl, by decide, rfl,
    shown, ?_⟩
  intro released
  have other := released.disconnected
  rw [shown] at other
  cases other

end Provider

end SignerLink
