import SignerLink.Proofs.Provider.Course
import SignerLink.Proofs.Provider.Growth
/-!
Searches for a device. A strand that waits for the answer of a search has waited ever since its
own turn came to an evaluation that asked for it.
-/

namespace SignerLink

namespace Provider

variable {Bench : Type} [AdapterBench Bench] {provider : Provider Bench} {strand : Strand}
  {epoch : Nat} {found : DeviceSearch}

theorem advance_of_course {course : Course Bench} (takes : provider.course? strand = some course) :
    ∃ next : Strand, next.id = strand.id ∧
      provider.advance strand = course.result.1.proceed next course.result.2 := by
  obtain ⟨⟨work, next⟩, taken, rfl⟩ := Option.map_eq_some_iff.mp takes
  refine ⟨next, work?_id taken, ?_⟩
  rw [advance_of_work taken, perform_eq]

/-! Who asks. -/

theorem autoConnect_search? (epoch : Nat) (trigger : Trigger) (deviceId : String) :
    (provider.autoConnect epoch trigger deviceId).2.search? = none := by
  simp only [autoConnect]
  split
  · rfl
  · exact followAttempt_search? _ _ _ _ _

theorem searched_search? (epoch : Nat) (found : DeviceSearch) :
    (provider.searched epoch found).2.search? = none := by
  simp only [searched]
  split
  · split
    · exact autoConnect_search? _ _ _
    · rfl
  · rfl

/-- An evaluation that begins here for an account selection asks the host, and this is the
answer. -/
structure Asks (start : Provider Bench) (epoch : Nat) (wallet : Wallet) (account : Account)
    (found : DeviceSearch) : Prop where
  eligible : start.eligible? epoch .accountChanged = some (wallet, account)
  found : (start.host.inquire wallet).2.answer.deviceId wallet = found

theorem asks_of_evaluate {selection : Nat} {trigger : Trigger}
    (searches : (provider.evaluate selection trigger).2.search? = some (epoch, found)) :
    selection = epoch ∧ trigger = .accountChanged ∧
      ∃ wallet account, provider.Asks epoch wallet account found := by
  simp only [evaluate] at searches
  split at searches
  next => cases searches
  next wallet account eligible =>
    split at searches
    next =>
      rw [autoConnect_search?] at searches
      cases searches
    next =>
      split at searches
      next =>
        rw [searched_search?] at searches
        cases searches
      next =>
        cases searches
        exact ⟨rfl, rfl, wallet, account, eligible, rfl⟩

theorem asks_of_perform {work : Work}
    (searches : (provider.perform work).2.search? = some (epoch, found)) :
    ∃ start wallet account, provider.course work = .evaluation start epoch .accountChanged ∧
      start.Asks epoch wallet account found := by
  have follows : (provider.course work).Follows provider work := course_follows work
  rw [perform_eq] at searches
  cases course : provider.course work with
  | elsewhere result =>
      rw [course] at searches follows
      have silent : result.2.search? = some (epoch, found) := searches
      rw [follows.1] at silent
      cases silent
  | evaluation start selection trigger =>
      rw [course] at searches
      obtain ⟨rfl, rfl, wallet, account, asks⟩ := asks_of_evaluate searches
      exact ⟨start, wallet, account, rfl, asks⟩
  | answer instant selection answered =>
      rw [course] at searches
      have silent : (instant.searched selection answered).2.search? = some (epoch, found) :=
        searches
      rw [searched_search?] at silent
      cases silent

/-! Who waits for the answer. -/

def Waits (evolves : Bench → Bench → Prop) (strand : Strand) (before after : Provider Bench) :
    Prop :=
  Transition evolves before after ∧ strand ∈ after.strands

inductive Stopped (evolves : Bench → Bench → Prop) (provider : Provider Bench) (strand : Strand)
    (call : Call) : Prop where
  | since (asked : Provider Bench) (former next : Strand) (work : Work) (milliseconds : Nat) :
      asked.Reachable evolves → former ∈ asked.strands → former.id = strand.id →
      asked.work? former = some (work, next) →
      (asked.perform work).2 = .waiting call milliseconds →
      strand ∈ (asked.advance former).letGo.strands →
      Relation.ReflTransGen (Waits evolves strand) (asked.advance former).letGo provider →
      Stopped evolves provider strand call

inductive Searches (evolves : Bench → Bench → Prop) (provider : Provider Bench) (strand : Strand)
    (epoch : Nat) (found : DeviceSearch) : Prop where
  | since (asked start : Provider Bench) (former : Strand) (wallet : Wallet) (account : Account) :
      asked.Reachable evolves → former ∈ asked.strands → former.id = strand.id →
      asked.course? former = some (.evaluation start epoch .accountChanged) →
      start.Asks epoch wallet account found →
      strand ∈ (asked.advance former).letGo.strands →
      Relation.ReflTransGen (Waits evolves strand) (asked.advance former).letGo provider →
      Searches evolves provider strand epoch found

variable {evolves : Bench → Bench → Prop}

theorem Reachable.tail {before after : Provider Bench} (reachable : before.Reachable evolves)
    (transition : Transition evolves before after) : after.Reachable evolves := by
  obtain ⟨first, new, transitions⟩ := reachable
  exact ⟨first, new, transitions.tail transition⟩

theorem Reachable.stopped (reachable : provider.Reachable evolves) {call : Call} {due : Nat}
    (member : strand ∈ provider.strands) (waits : strand.call = some (call, due)) :
    Stopped evolves provider strand call := by
  obtain ⟨first, new, transitions⟩ := reachable
  induction transitions with
  | refl =>
      rw [new.strands] at member
      cases member
  | @tail before after transitions transition ih =>
      cases transition.stands member with
      | stood stood =>
          obtain ⟨asked, former, next, work, milliseconds, reached, present, same, takes, stops,
            stopped, waited⟩ := ih stood
          exact .since asked former next work milliseconds reached present same takes stops stopped
            (waited.tail ⟨transition, member⟩)
      | idle idle =>
          rw [idle] at waits
          cases waits
      | stopped former next work other milliseconds due present ready advanced takes stops same =>
          subst same advanced
          cases waits
          exact .since before former next work milliseconds ⟨first, new, transitions⟩ present
            (work?_id takes).symm takes stops member .refl

theorem Reachable.searches (reachable : provider.Reachable evolves) {due : Nat}
    (member : strand ∈ provider.strands)
    (waits : strand.call = some (.search epoch found, due)) :
    Searches evolves provider strand epoch found := by
  obtain ⟨asked, former, next, work, milliseconds, reached, present, same, takes, stops, stopped,
    waited⟩ := reachable.stopped member waits
  have searches : (asked.perform work).2.search? = some (epoch, found) := by
    rw [stops]
    rfl
  obtain ⟨start, wallet, account, course, asks⟩ := asks_of_perform searches
  refine .since asked start former wallet account reached present same ?_ asks stopped waited
  rw [course?, takes, Option.map_some, course]

theorem ages_of_waits {before after : Provider Bench}
    (waited : Relation.ReflTransGen (Waits evolves strand) before after) : before.Ages after := by
  induction waited with
  | refl => exact .refl before
  | tail _ step ih => exact ih.trans step.1.ages

theorem ages_of_evaluation {start : Provider Bench} {trigger : Trigger}
    (course : provider.course? strand = some (.evaluation start epoch trigger)) :
    start.Ages (provider.advance strand).letGo := by
  obtain ⟨next, _, advanced⟩ := advance_of_course course
  have evaluated : start.Ages (start.evaluate epoch trigger).1 :=
    (evaluate_edits epoch trigger).grows.toAges
  rw [advanced]
  refine evaluated.trans (.trans (.of_same ?_ ?_ ?_) letGo_ages)
  · exact proceed_tracking _ _ _
  · exact proceed_permission _ _ _
  · simp only [isCancelled, proceed_connection]
    rfl

end Provider

end SignerLink
