import SignerLink.Provider.Strand
/-!
The turn of a strand. In its turn a strand takes up one piece of work and goes on with what comes
of it, or it only passes something on, or it ends.
-/

namespace SignerLink

inductive Work where
  | begin (host : MemoryHost) (request : Request)
  | resume (call : Call)
  | evaluate (epoch : Nat) (trigger : Trigger)

namespace Provider

variable {Bench : Type}

def work? (provider : Provider Bench) (strand : Strand) : Option (Work × Strand) :=
  match strand.call with
  | some (call, _) => some (.resume call, strand)
  | none =>
      match strand.duty with
      | .caller request => some (.begin provider.host request, strand)
      | .pump | .forwarder _ => none
      | .listener subscription =>
          if provider.isListener strand.id then
            match provider.host.receive subscription with
            | (host, .found event) => some (.begin host (.plugEvent event), strand)
            | _ => none
          else none
      | .retry epoch trigger _ =>
          if provider.isCancelled then none else some (.evaluate epoch trigger, strand)
      | .watcher store seen =>
          match provider.store? store with
          | none => none
          | some accounts =>
              if seen.isSome && provider.isCancelled then none
              else if seen = some accounts.published.version then none
              else
                some (.begin provider.host (.selectAccount accounts.published.value),
                  { strand with duty := .watcher store (some accounts.published.version) })

variable {provider : Provider Bench} {strand next : Strand} {work : Work}

theorem call_of_resume {call : Call}
    (takes : provider.work? strand = some (.resume call, next)) :
    ∃ due, strand.call = some (call, due) := by
  simp only [work?] at takes
  split at takes
  next waiting due waits => cases takes; exact ⟨due, waits⟩
  next =>
    repeat' split at takes
    all_goals cases takes

theorem duty_of_evaluate {epoch : Nat} {trigger : Trigger}
    (takes : provider.work? strand = some (.evaluate epoch trigger, next)) :
    ∃ due, strand.duty = .retry epoch trigger due := by
  simp only [work?] at takes
  split at takes
  next => cases takes
  next =>
    split at takes
    next => cases takes
    next => cases takes
    next => cases takes
    next =>
      repeat' split at takes
      all_goals cases takes
    next selection trigger due duty =>
      split at takes
      next => cases takes
      next =>
        cases takes
        exact ⟨due, duty⟩
    next =>
      repeat' split at takes
      all_goals cases takes

theorem call_of_none (idle : provider.work? strand = none) : strand.call = none := by
  cases waits : strand.call with
  | none => rfl
  | some waiting => simp [work?, waits] at idle

theorem work?_begin {request : Request} (idle : strand.call = none)
    (asks : strand.duty = .caller request) :
    provider.work? strand = some (.begin provider.host request, strand) := by
  simp only [work?, idle, asks]

theorem work?_resume {call : Call} {due : Nat} (waits : strand.call = some (call, due)) :
    provider.work? strand = some (.resume call, strand) := by
  simp only [work?, waits]

theorem work?_caller {request : Request}
    (takes : provider.work? strand = some (work, next)) (asks : next.duty = .caller request) :
    strand.duty = .caller request ∧
      (strand.call = none ∧ work = .begin provider.host request ∨
        ∃ call due, strand.call = some (call, due) ∧ work = .resume call) := by
  simp only [work?] at takes
  split at takes
  next call due waits =>
    cases takes
    exact ⟨asks, .inr ⟨call, due, waits, rfl⟩⟩
  next idle =>
    split at takes
    next other duty =>
      cases takes
      cases duty.symm.trans asks
      exact ⟨asks, .inl ⟨idle, rfl⟩⟩
    next => cases takes
    next => cases takes
    next subscription duty =>
      have other : next.duty = .listener subscription := by
        repeat' split at takes
        all_goals cases takes
        exact duty
      cases other.symm.trans asks
    next epoch trigger due duty =>
      have other : next.duty = .retry epoch trigger due := by
        split at takes
        all_goals cases takes
        exact duty
      cases other.symm.trans asks
    next store seen duty =>
      repeat' split at takes
      all_goals cases takes
      cases asks

theorem work?_id (takes : provider.work? strand = some (work, next)) :
    next.id = strand.id := by
  simp only [work?] at takes
  split at takes
  next => cases takes; rfl
  next =>
    split at takes
    next => cases takes; rfl
    next => cases takes
    next => cases takes
    next =>
      split at takes
      next =>
        split at takes
        next => cases takes; rfl
        next => cases takes
      next => cases takes
    next =>
      split at takes
      next => cases takes
      next => cases takes; rfl
    next =>
      split at takes
      next => cases takes
      next =>
        split at takes
        next => cases takes
        next =>
          split at takes
          next => cases takes
          next => cases takes; rfl

theorem mem_put {other : Strand} (member : other ∈ (provider.put strand).strands) :
    other ∈ provider.strands ∨ other = strand := by
  obtain ⟨former, present, same⟩ := List.mem_map.mp member
  split at same
  · exact .inr same.symm
  · exact .inl (same ▸ present)

theorem mem_proceed {other : Strand} {step : Step}
    (member : other ∈ (provider.proceed strand step).strands) :
    other ∈ provider.strands ∨ other.call = none ∨
      ∃ call milliseconds, step = .waiting call milliseconds ∧
        other = { strand with call := some (call, provider.now + milliseconds) } := by
  cases step with
  | waiting call milliseconds =>
      rcases mem_put member with old | rfl
      · exact .inl old
      · exact .inr (.inr ⟨call, milliseconds, rfl, rfl⟩)
  | finished reply =>
      simp only [proceed] at member
      split at member
      next => exact .inl (List.mem_filter.mp member).1
      next => exact .inl (List.mem_filter.mp member).1
      next =>
        rcases mem_put member with old | rfl
        · exact .inl old
        · exact .inr (.inl rfl)

section Proceed

variable (provider strand) (step : Step)

@[simp] theorem proceed_connection :
    (provider.proceed strand step).connection = provider.connection := by
  simp only [proceed]
  split
  · rfl
  · split <;> rfl

@[simp] theorem proceed_tracking :
    (provider.proceed strand step).tracking = provider.tracking := by
  simp only [proceed]
  split
  · rfl
  · split <;> rfl

@[simp] theorem proceed_permission :
    (provider.proceed strand step).permission = provider.permission := by
  simp only [proceed]
  split
  · rfl
  · split <;> rfl

@[simp] theorem proceed_host : (provider.proceed strand step).host = provider.host := by
  simp only [proceed]
  split
  · rfl
  · split <;> rfl

end Proceed

/-- What a turn without work does to the strand: it ends, or nothing becomes of it. -/
structure Pauses [AdapterBench Bench] (before : Provider Bench) (strand : Strand)
    (after : Provider Bench) : Prop where
  idle : strand.call = none
  strands : after.strands = before.strands ∨ after.strands = (before.remove strand.id).strands
  tracking : after.tracking = before.tracking
  permission : after.permission = before.permission
  connection : after.connection = before.connection ∨
    after.connection = before.connection.pump ∨ after.connection = before.connection.closeInbox

/-- What a turn without work does: next to nothing, except that a pump passes a notice on. -/
structure Idles [AdapterBench Bench] (before after : Provider Bench) : Prop where
  strands : ∀ strand ∈ after.strands, strand ∈ before.strands
  tracking : after.tracking = before.tracking
  permission : after.permission = before.permission
  connection : after.connection = before.connection ∨
    after.connection = before.connection.pump ∨ after.connection = before.connection.closeInbox

variable [AdapterBench Bench]

def perform (provider : Provider Bench) : Work → Provider Bench × Step
  | .begin host request => (provider.setHost host).begin request
  | .resume call => provider.resume call
  | .evaluate epoch trigger => provider.evaluate epoch trigger

theorem advance_of_work (takes : provider.work? strand = some (work, next)) :
    provider.advance strand =
      (provider.perform work).1.proceed next (provider.perform work).2 := by
  simp only [work?] at takes
  split at takes
  next call due waiting =>
    cases takes
    simp [advance, waiting, perform]
  next idle =>
    split at takes
    next request duty =>
      cases takes
      simp only [advance, idle, duty, perform]
      rfl
    next => cases takes
    next => cases takes
    next subscription duty =>
      split at takes
      next listens =>
        split at takes
        next host event received =>
          cases takes
          simp only [advance, idle, duty, perform, listenerStep, listens, received, Bool.not_true,
            Bool.false_eq_true, if_false]
          rfl
        next => cases takes
      next => cases takes
    next epoch trigger due duty =>
      split at takes
      next => cases takes
      next live =>
        cases takes
        simp [advance, idle, duty, perform, live]
    next store seen duty =>
      split at takes
      next => cases takes
      next accounts stored =>
        split at takes
        next => cases takes
        next goes =>
          split at takes
          next => cases takes
          next unseen =>
            cases takes
            simp only [advance, idle, duty, perform, watcherStep, stored, goes, unseen,
              Bool.false_eq_true, if_false]
            rfl

def paused (provider : Provider Bench) (subscriptions : List Subscription)
    (connection : Connection Bench) : Provider Bench :=
  (provider.setHost { provider.host with subscriptions := subscriptions }).setConnection connection

theorem advance_of_none (idle : provider.work? strand = none) :
    ∃ subscriptions connection,
      (connection = provider.connection ∨ connection = provider.connection.pump ∨
        connection = provider.connection.closeInbox) ∧
      (provider.advance strand = provider.paused subscriptions connection ∨
        provider.advance strand =
          (provider.paused subscriptions connection).remove strand.id) := by
  have none := call_of_none idle
  simp only [work?, none] at idle
  split at idle
  next => cases idle
  next duty =>
    simp only [advance, none, duty]
    split
    · exact ⟨provider.host.subscriptions, _, .inr (.inr rfl), .inr rfl⟩
    · exact ⟨provider.host.subscriptions, _, .inr (.inl rfl), .inl rfl⟩
  next subscription duty =>
    simp only [advance, none, duty]
    split
    · exact ⟨_, _, .inl rfl, .inl rfl⟩
    · exact ⟨_, _, .inl rfl, .inr rfl⟩
  next subscription duty =>
    simp only [advance, none, duty, listenerStep]
    split
    next => exact ⟨_, _, .inl rfl, .inr rfl⟩
    next listens =>
      rw [if_pos (by simpa using listens)] at idle
      split
      next => exact ⟨_, _, .inl rfl, .inr rfl⟩
      next => exact ⟨provider.host.subscriptions, _, .inl rfl, .inl rfl⟩
      next host event received => simp [received] at idle
  next epoch trigger due duty =>
    simp only [advance, none, duty]
    split
    next => exact ⟨provider.host.subscriptions, _, .inl rfl, .inr rfl⟩
    next live => simp [live] at idle
  next store seen duty =>
    simp only [advance, none, duty, watcherStep]
    split
    next => exact ⟨provider.host.subscriptions, _, .inl rfl, .inr rfl⟩
    next accounts stored =>
      simp only [stored] at idle
      split
      next => exact ⟨provider.host.subscriptions, _, .inl rfl, .inr rfl⟩
      next goes =>
        rw [if_neg goes] at idle
        split
        next =>
          split
          · exact ⟨provider.host.subscriptions, _, .inl rfl, .inr rfl⟩
          · exact ⟨provider.host.subscriptions, _, .inl rfl, .inl rfl⟩
        next unseen =>
          rw [if_neg unseen] at idle
          cases idle

theorem advance_pauses (idle : provider.work? strand = none) :
    provider.Pauses strand (provider.advance strand) := by
  have none := call_of_none idle
  obtain ⟨subscriptions, connection, moved, rests | ends⟩ := advance_of_none idle
  · rw [rests]
    exact ⟨none, .inl rfl, rfl, rfl, moved⟩
  · rw [ends]
    exact ⟨none, .inr rfl, rfl, rfl, moved⟩

theorem Pauses.idles {before after : Provider Bench} (pauses : before.Pauses strand after) :
    before.Idles after where
  strands other member := by
    rcases pauses.strands with same | ended
    · exact same ▸ member
    · rw [ended] at member
      exact (List.mem_filter.mp member).1
  tracking := pauses.tracking
  permission := pauses.permission
  connection := pauses.connection

theorem advance_of_idle (idle : provider.work? strand = none) :
    provider.Idles (provider.advance strand) := (advance_pauses idle).idles

end Provider

end SignerLink
