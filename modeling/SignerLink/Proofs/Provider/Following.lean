import SignerLink.Proofs.Provider.Pursuit
import SignerLink.Proofs.Provider.Release
/-!
Connecting for a watched account. When accounts are selected by nothing but one watcher, whatever is
under way is for the account that the watcher read last; it reads the next one only after the
selection of this one is over.
-/

namespace SignerLink

def Strand.selects (strand : Strand) : Bool :=
  match strand.duty with
  | .caller (.selectAccount _) => true
  | _ => false

/-- What a store holds after these accounts were published in turn. -/
def held? (history : List Account) : Option (Watched Account) :=
  history.getLast?.map fun account => ⟨account, history.length - 1⟩

def accountAt? (history : List Account) (read : Option Nat) : Option Account :=
  read.elim (some {}) fun version => history[version]?

theorem accountAt?_append {history : List Account} {read : Option Nat} {account : Account}
    (found : accountAt? history read = some account) (later : Account) :
    accountAt? (history ++ [later]) read = some account := by
  cases read with
  | none => exact found
  | some version =>
      obtain ⟨within, _⟩ := List.getElem?_eq_some_iff.mp found
      rw [accountAt?, Option.elim_some, List.getElem?_append_left within]
      exact found

theorem accountAt?_held {history : List Account} {held : Watched Account}
    (holds : held? history = some held) :
    accountAt? history (some held.version) = some held.value := by
  obtain ⟨account, last, rfl⟩ := Option.map_eq_some_iff.mp holds
  rw [accountAt?, Option.elim_some, ← last, List.getLast?_eq_getElem?]

namespace Provider

variable {Bench : Type} [AdapterBench Bench]

/-- One store is published to and watched, and nothing else selects accounts. These are all the
accounts that were published, the last one last. -/
inductive Following (evolves : Bench → Bench → Prop) : List Account → Provider Bench → Prop where
  | start (first : Provider Bench) : first.IsFresh → first.tracking = {} → first.stores = [] →
      Following evolves [] first
  | watch (provider : Provider Bench) (account : Account) : Following evolves [] provider →
      Following evolves [account] (provider.watchAccounts account).1
  | publish (history : List Account) (provider : Provider Bench) (account : Account) :
      Following evolves history provider → provider.isWatched 0 = true →
      Following evolves (history ++ [account]) (provider.publishAccount 0 account)
  | goesOn (history : List Account) (before after : Provider Bench) :
      Following evolves history before → Transition evolves before after →
      after.stores.map AccountStore.published = before.stores.map AccountStore.published →
      (∀ strand ∈ after.strands, strand.selects = false) →
      Following evolves history after

/-- The version that the watcher has read last: the one it has marked as seen, or the last one if
the watcher is through with its store. -/
inductive HasRead (history : List Account) (provider : Provider Bench) : Option Nat → Prop where
  | watches (strand : Strand) (store : Nat) (seen : Option Nat) : strand ∈ provider.strands →
      strand.duty = .watcher store seen → HasRead history provider seen
  | ended : (∀ strand ∈ provider.strands, strand.duty.isWatcher = false) →
      HasRead history provider ((held? history).map Watched.version)

structure Follows (history : List Account) (provider : Provider Bench) : Prop where
  stored : provider.stores.map AccountStore.published = (held? history).toList
  watched : ∀ strand ∈ provider.strands, strand.duty.isWatcher = true →
    history ≠ [] ∧ ∃ seen, strand.duty = .watcher 0 seen
  alone : ∀ strand ∈ provider.strands, ∀ other ∈ provider.strands,
    strand.duty.isWatcher = true → other.duty.isWatcher = true → strand.id = other.id
  tracked : provider.isCancelled = false → ∀ read, HasRead history provider read →
    accountAt? history read = some provider.tracking.account
  current : ∀ strand ∈ provider.strands, strand.duty.isWatcher = true →
    ∀ epoch, strand.pursued? = some epoch → provider.tracking.epoch = epoch

variable {evolves : Bench → Bench → Prop} {history : List Account}
  {before after provider : Provider Bench} {strand former next : Strand} {work : Work}

omit [AdapterBench Bench] in
theorem Follows.store (follows : provider.Follows history) (published : history ≠ []) :
    ∃ accounts, provider.stores = [accounts] ∧ held? history = some accounts.published := by
  obtain ⟨held, holds⟩ : ∃ held, held? history = some held :=
    Option.isSome_iff_exists.mp (by simpa [held?] using published)
  have stored := follows.stored
  rw [holds] at stored
  obtain ⟨accounts, same, rfl⟩ := List.map_eq_singleton_iff.mp stored
  exact ⟨accounts, same, holds⟩

omit [AdapterBench Bench] in
theorem store?_of_stores {accounts : AccountStore} (only : provider.stores = [accounts]) :
    provider.store? 0 = some accounts := by
  rw [store?, only]
  rfl

/-! Turns. -/

omit [AdapterBench Bench] in
theorem work?_of_watcher {store : Nat} {seen : Option Nat}
    (takes : provider.work? strand = some (work, next))
    (watches : strand.duty = .watcher store seen) :
    (∃ call, work = .resume call ∧ next = strand) ∨
      ∃ accounts, provider.store? store = some accounts ∧
        work = .begin provider.host (.selectAccount accounts.published.value) ∧
        next = { strand with duty := .watcher store (some accounts.published.version) } := by
  simp only [work?, watches] at takes
  split at takes
  next call due waits =>
    cases takes
    exact .inl ⟨call, rfl, rfl⟩
  next =>
    repeat' split at takes
    all_goals cases takes
    exact .inr ⟨_, ‹_›, rfl, rfl⟩

omit [AdapterBench Bench] in
theorem work?_of_other (takes : provider.work? strand = some (work, next))
    (other : strand.duty.isWatcher = false) (unselected : strand.selects = false) :
    next = strand ∧ provider.turned work = provider := by
  simp only [work?] at takes
  split at takes
  next => cases takes; exact ⟨rfl, rfl⟩
  next idle =>
    split at takes
    next request duty =>
      cases takes
      refine ⟨rfl, ?_⟩
      cases request with
      | selectAccount account => simp [Strand.selects, duty] at unselected
      | _ => rfl
    next => cases takes
    next => cases takes
    next subscription duty =>
      repeat' split at takes
      all_goals cases takes
      exact ⟨rfl, rfl⟩
    next epoch trigger due duty =>
      split at takes
      all_goals cases takes
      exact ⟨rfl, rfl⟩
    next store seen duty => simp [duty, Duty.isWatcher] at other

omit [AdapterBench Bench] in
theorem work?_of_through {store : Nat} {seen : Option Nat} {accounts : AccountStore}
    (idle : provider.work? strand = none) (watches : strand.duty = .watcher store seen)
    (live : provider.isCancelled = false) (stored : provider.store? store = some accounts) :
    seen = some accounts.published.version := by
  have none := call_of_none idle
  by_contra unseen
  simp [work?, none, watches, live, stored, unseen] at idle

omit [AdapterBench Bench] in
theorem turned_stores (work : Work) : (provider.turned work).stores = provider.stores := by
  simp only [turned, selecting]
  split
  · split <;> rfl
  all_goals rfl

omit [AdapterBench Bench] in
theorem proceed_stores (step : Step) : (provider.proceed strand step).stores = provider.stores := by
  simp only [proceed]
  split
  · rfl
  · split <;> rfl

theorem advance_stores (strand : Strand) : (provider.advance strand).stores = provider.stores := by
  cases takes : provider.work? strand with
  | none =>
      obtain ⟨subscriptions, connection, _, rests | ends⟩ := advance_of_none takes
      · rw [rests]; rfl
      · rw [ends]; rfl
  | some taken =>
      obtain ⟨work, next⟩ := taken
      rw [advance_of_work takes, proceed_stores,
        (provider.perform_pursuesCurrent work).keeps.stores, turned_stores]

omit [AdapterBench Bench] in
theorem turned_selection (live : provider.isCancelled = false) (host : MemoryHost)
    (account : Account) :
    (provider.turned (.begin host (.selectAccount account))).tracking.account = account := by
  simp only [turned, selecting, live, Bool.false_or]
  split
  next same => exact eq_of_beq same
  next => rfl

theorem advance_tracking (takes : before.work? former = some (work, next)) :
    (before.advance former).tracking.epoch = (before.turned work).tracking.epoch ∧
      (before.advance former).tracking.account = (before.turned work).tracking.account := by
  have keeps := (before.perform_pursuesCurrent work).keeps
  rw [advance_of_work takes, proceed_tracking]
  exact ⟨keeps.epoch, keeps.account⟩

theorem advance_watcher (takes : before.work? former = some (work, next))
    (member : strand ∈ (before.advance former).strands) (watches : strand.duty.isWatcher = true) :
    strand ∈ before.strands ∧ strand.id ≠ next.id ∨
      strand.id = next.id ∧ strand.duty = next.duty ∧
        ∀ epoch, strand.pursued? = some epoch →
          (before.turned work).tracking.epoch = epoch ∨ work.pursued? = some epoch := by
  cases advance_inLineAfter takes member with
  | bystander stood other => exact .inl ⟨stood, other⟩
  | offshoot offshoot _ =>
      have kind := offshoot.kind
      cases duty : strand.duty with
      | watcher store seen => rw [duty] at kind; cases kind
      | _ => rw [duty] at watches; cases watches
  | rests plain same =>
      refine .inr ⟨by rw [same], by rw [same], fun epoch pursued => ?_⟩
      rw [same, Strand.pursued?, plain] at pursued
      cases pursued
  | waits call milliseconds due ends same =>
      refine .inr ⟨by rw [same], by rw [same], fun epoch pursued => ?_⟩
      rw [same] at pursued
      have waits : (before.perform work).2.pursued? = some epoch := by
        rw [ends]
        exact pursued
      exact ((before.perform_pursuesCurrent work).pursued epoch waits).imp_left Eq.symm

theorem advance_stands_watcher (takes : before.work? former = some (work, next))
    (member : former ∈ before.strands) (watches : next.duty.isWatcher = true) :
    ∃ strand ∈ (before.advance former).strands, strand.duty = next.duty := by
  have kept : former ∈ (before.turned work).strands := by
    rw [turned_strands]
    exact member
  have stands : former ∈ (before.perform work).1.strands :=
    (before.perform_pursuesCurrent work).keeps.of_mem kept
  have named : next.id = former.id := work?_id takes
  have put (later : Strand) (same : later.id = former.id) (duty : later.duty = next.duty) :
      ∃ strand ∈ ((before.perform work).1.put later).strands, strand.duty = next.duty :=
    ⟨later, List.mem_map.mpr ⟨former, stands, by simp [same]⟩, duty⟩
  rw [advance_of_work takes]
  cases (before.perform work).2 with
  | waiting call milliseconds => exact put _ named rfl
  | finished reply =>
      cases duty : next.duty with
      | watcher store seen =>
          simp only [proceed, duty]
          exact duty ▸ put _ named rfl
      | _ => rw [duty] at watches; cases watches

namespace Follows

theorem advance_idle (follows : before.Follows history) (distinct : before.Distinct)
    (member : former ∈ before.strands) (idle : before.work? former = none)
    (live : (before.advance former).isCancelled = false → before.isCancelled = false) :
    (before.advance former).Follows history := by
  have pauses := advance_pauses idle
  have stands : ∀ strand ∈ (before.advance former).strands, strand ∈ before.strands :=
    (advance_of_idle idle).strands
  constructor
  case stored => rw [advance_stores]; exact follows.stored
  case watched => exact fun strand member => follows.watched strand (stands strand member)
  case alone =>
    exact fun strand member other present =>
      follows.alone strand (stands strand member) other (stands other present)
  case current =>
    rw [pauses.tracking]
    exact fun strand member => follows.current strand (stands strand member)
  case tracked =>
    intro goesOn read hasRead
    rw [pauses.tracking]
    cases hasRead with
    | watches strand store seen present duty =>
        exact follows.tracked (live goesOn) _ (.watches strand store _ (stands strand present) duty)
    | ended through =>
        by_cases watched : ∃ strand ∈ before.strands, strand.duty.isWatcher = true
        · -- The only watcher has just left, having read all there is.
          obtain ⟨strand, present, watches⟩ := watched
          obtain ⟨published, seen, duty⟩ := follows.watched strand present watches
          obtain ⟨accounts, only, holds⟩ := follows.store published
          have left : strand = former := by
            rcases pauses.strands with same | ended
            · have still := through strand (same ▸ present)
              rw [watches] at still
              cases still
            · by_contra other
              have different : strand.id ≠ former.id := fun same =>
                other (List.inj_on_of_nodup_map distinct.nodup present member same)
              have still := through strand (ended ▸ mem_remove_iff.mpr ⟨present, different⟩)
              rw [watches] at still
              cases still
          rw [left] at duty
          have read := work?_of_through idle duty (live goesOn) (store?_of_stores only)
          rw [holds, Option.map_some, ← read]
          exact follows.tracked (live goesOn) _ (.watches former 0 seen member duty)
        · refine follows.tracked (live goesOn) _ (.ended ?_)
          intro strand present
          by_contra watches
          exact watched ⟨strand, present, by simpa using watches⟩

theorem advance_other (follows : before.Follows history) (distinct : before.Distinct)
    (member : former ∈ before.strands) (takes : before.work? former = some (work, next))
    (other : former.duty.isWatcher = false) (unselected : former.selects = false)
    (live : (before.advance former).isCancelled = false → before.isCancelled = false) :
    (before.advance former).Follows history := by
  obtain ⟨rfl, still⟩ := work?_of_other takes other unselected
  obtain ⟨epoch, account⟩ := advance_tracking takes
  rw [still] at epoch account
  -- Whoever watches is the watcher from before, and it has not moved.
  have stood : ∀ strand ∈ (before.advance next).strands, strand.duty.isWatcher = true →
      strand ∈ before.strands := by
    intro strand member watches
    rcases advance_watcher takes member watches with ⟨stood, _⟩ | ⟨_, same, _⟩
    · exact stood
    · rw [same, other] at watches
      cases watches
  constructor
  case stored => rw [advance_stores]; exact follows.stored
  case watched =>
    exact fun strand present watches =>
      follows.watched strand (stood strand present watches) watches
  case alone =>
    exact fun strand present rival within watches rivals =>
      follows.alone strand (stood strand present watches) rival (stood rival within rivals) watches
        rivals
  case current =>
    rw [epoch]
    exact fun strand present watches =>
      follows.current strand (stood strand present watches) watches
  case tracked =>
    intro goesOn read hasRead
    rw [account]
    refine follows.tracked (live goesOn) read ?_
    cases hasRead with
    | watches strand store seen present duty =>
        exact .watches strand store _ (stood strand present (by rw [duty]; rfl)) duty
    | ended through =>
        refine .ended fun strand present => ?_
        by_contra watches
        have different : strand.id ≠ next.id := by
          intro same
          have equal := List.inj_on_of_nodup_map distinct.nodup present member same
          rw [equal, other] at watches
          exact watches rfl
        have kept : strand ∈ (before.perform work).1.strands := by
          refine (before.perform_pursuesCurrent work).keeps.of_mem ?_
          rw [turned_strands]
          exact present
        have stands : strand ∈ (before.advance next).strands := by
          rw [advance_of_work takes]
          exact mem_proceed_of_ne _ kept different
        exact watches (through strand stands)

omit [AdapterBench Bench] in
theorem reads_next (follows : before.Follows history) (member : former ∈ before.strands)
    (takes : before.work? former = some (work, next)) (watches : former.duty.isWatcher = true) :
    ∃ read, next.duty = .watcher 0 read ∧
      (before.isCancelled = false →
        accountAt? history read = some (before.turned work).tracking.account) ∧
      ∀ epoch, work.pursued? = some epoch → (before.turned work).tracking.epoch = epoch := by
  obtain ⟨published, seen, duty⟩ := follows.watched former member watches
  rcases work?_of_watcher takes duty with ⟨call, rfl, rfl⟩ | ⟨accounts, stored, rfl, rfl⟩
  · refine ⟨seen, duty, fun goesOn => ?_, fun epoch pursued => ?_⟩
    · exact follows.tracked goesOn _ (.watches next 0 seen member duty)
    · obtain ⟨account, trigger, attempt, same⟩ := Work.attempt_of_pursued pursued
      obtain ⟨due, waits⟩ := call_of_resume (same ▸ takes)
      exact follows.current next member watches epoch (Strand.pursued?_waiting waits)
  · obtain ⟨same, only, holds⟩ := follows.store published
    rw [store?_of_stores only] at stored
    cases stored
    refine ⟨some accounts.published.version, rfl, fun goesOn => ?_, fun _ pursued => ?_⟩
    · rw [turned_selection goesOn]
      exact accountAt?_held holds
    · cases pursued

theorem advance_watcher (follows : before.Follows history) (member : former ∈ before.strands)
    (takes : before.work? former = some (work, next)) (watches : former.duty.isWatcher = true)
    (live : (before.advance former).isCancelled = false → before.isCancelled = false) :
    (before.advance former).Follows history := by
  obtain ⟨published, _⟩ := follows.watched former member watches
  obtain ⟨epoch, account⟩ := advance_tracking takes
  have named := work?_id takes
  obtain ⟨read, later, known, pursues⟩ := follows.reads_next member takes watches
  -- The watcher is still the only one.
  have only : ∀ strand ∈ (before.advance former).strands, strand.duty.isWatcher = true →
      strand.id = next.id ∧ strand.duty = next.duty ∧
        ∀ epoch, strand.pursued? = some epoch →
          (before.turned work).tracking.epoch = epoch ∨ work.pursued? = some epoch := by
    intro strand present follower
    rcases Provider.advance_watcher takes present follower with ⟨stood, different⟩ | mine
    · exact absurd ((follows.alone strand stood former member follower watches).trans named.symm)
        different
    · exact mine
  constructor
  case stored => rw [advance_stores]; exact follows.stored
  case watched =>
    intro strand present follower
    exact ⟨published, read, (only strand present follower).2.1.trans later⟩
  case alone =>
    intro strand present rival within follower rivals
    exact (only strand present follower).1.trans (only rival within rivals).1.symm
  case current =>
    intro strand present follower selection pursued
    rw [epoch]
    rcases (only strand present follower).2.2 selection pursued with same | begun
    · exact same
    · exact pursues selection begun
  case tracked =>
    intro goesOn version hasRead
    rw [account]
    cases hasRead with
    | watches strand store found present watching =>
        have same := (only strand present (by rw [watching]; rfl)).2.1
        rw [watching, later] at same
        cases same
        exact known (live goesOn)
    | ended through =>
        obtain ⟨strand, present, same⟩ :=
          advance_stands_watcher takes member (by rw [later]; rfl)
        have still := through strand present
        rw [same, later] at still
        cases still

theorem advance (follows : before.Follows history) (distinct : before.Distinct)
    (member : former ∈ before.strands) (unselected : former.selects = false) :
    (before.advance former).Follows history := by
  have simulated : Simulates (fun _ _ => True) before (before.advance former) :=
    advance_simulates distinct member
  have live : (before.advance former).isCancelled = false → before.isCancelled = false :=
    simulated.steps.isOver_of
  cases takes : before.work? former with
  | none => exact follows.advance_idle distinct member takes live
  | some taken =>
      obtain ⟨work, next⟩ := taken
      cases watches : former.duty.isWatcher with
      | false => exact follows.advance_other distinct member takes watches unselected live
      | true => exact follows.advance_watcher member takes watches live

omit [AdapterBench Bench] in
theorem outside (follows : before.Follows history) (outside : before.Outside after)
    (kept : after.stores.map AccountStore.published = before.stores.map AccountStore.published)
    (live : after.isCancelled = false → before.isCancelled = false) : after.Follows history := by
  have stood : ∀ strand ∈ after.strands, strand.duty.isWatcher = true →
      strand ∈ before.strands := by
    intro strand member watches
    rcases outside.mem_strands member with stood | ⟨_, _, opened⟩
    · exact stood
    · have same := congrArg List.length kept
      rw [List.length_map, List.length_map] at same
      exact absurd same (opened watches).ne'
  obtain ⟨spawned, same, _⟩ := outside.strands
  constructor
  case stored => rw [kept]; exact follows.stored
  case watched =>
    exact fun strand present watches =>
      follows.watched strand (stood strand present watches) watches
  case alone =>
    exact fun strand present rival within watches rivals =>
      follows.alone strand (stood strand present watches) rival (stood rival within rivals) watches
        rivals
  case current =>
    rw [outside.epoch]
    exact fun strand present watches =>
      follows.current strand (stood strand present watches) watches
  case tracked =>
    intro goesOn read hasRead
    rw [outside.account]
    refine follows.tracked (live goesOn) read ?_
    cases hasRead with
    | watches strand store seen present duty =>
        exact .watches strand store _ (stood strand present (by rw [duty]; rfl)) duty
    | ended through =>
        refine .ended fun strand present => through strand ?_
        rw [same]
        exact List.mem_append_left _ present

omit [AdapterBench Bench] in
theorem unwatched (follows : provider.Follows []) :
    ∀ strand ∈ provider.strands, strand.duty.isWatcher = false := by
  intro strand member
  by_contra watches
  exact (follows.watched strand member (by simpa using watches)).1 rfl

omit [AdapterBench Bench] in
theorem watch (follows : provider.Follows []) (account : Account) :
    (provider.watchAccounts account).1.Follows [account] := by
  have unopened : provider.stores = [] := List.map_eq_nil_iff.mp follows.stored
  have first : ∀ strand ∈ (provider.watchAccounts account).1.strands,
      strand.duty.isWatcher = true →
      strand = { id := provider.nextStrand, duty := .watcher 0 .none } := by
    intro strand member watches
    rcases List.mem_append.mp member with old | new
    · rw [follows.unwatched strand old] at watches
      cases watches
    · rw [List.mem_singleton.mp new, unopened]
      rfl
  constructor
  case stored => simp [watchAccounts, spawn, unopened, held?]
  case watched =>
    intro strand present watches
    exact ⟨List.cons_ne_nil _ _, .none, by rw [first strand present watches]⟩
  case alone =>
    intro strand present rival within watches rivals
    rw [first strand present watches, first rival within rivals]
  case current =>
    intro strand present watches epoch pursued
    rw [first strand present watches] at pursued
    cases pursued
  case tracked =>
    intro live read hasRead
    cases hasRead with
    | watches strand store seen present duty =>
        rw [first strand present (by rw [duty]; rfl)] at duty
        cases duty
        exact follows.tracked live _ (.ended follows.unwatched)
    | ended through =>
        have still := through _ (List.mem_append_right _ (List.mem_singleton_self _))
        cases still

omit [AdapterBench Bench] in
theorem publish (follows : provider.Follows history) (watched : provider.isWatched 0 = true)
    (account : Account) : (provider.publishAccount 0 account).Follows (history ++ [account]) := by
  obtain ⟨watcher, present, watches⟩ : ∃ strand ∈ provider.strands,
      strand.duty.isWatcher = true := by
    obtain ⟨strand, present, duty⟩ := List.any_eq_true.mp watched
    refine ⟨strand, present, ?_⟩
    split at duty
    next same => rw [same]; rfl
    next => cases duty
  obtain ⟨published, _⟩ := follows.watched watcher present watches
  have same : provider.publishAccount 0 account = provider.updateStore 0 fun accounts =>
      { accounts with published := accounts.published.publish account } := if_pos watched
  rw [same]
  constructor
  case stored =>
    obtain ⟨accounts, only, holds⟩ := follows.store published
    obtain ⟨last, _, same⟩ := Option.map_eq_some_iff.mp holds
    have counted : history.length - 1 + 1 = history.length :=
      Nat.sub_add_cancel (List.length_pos_of_ne_nil published)
    simp [updateStore, only, held?, Watched.publish, ← same, counted]
  case watched =>
    intro strand member follower
    exact ⟨by simp, (follows.watched strand member follower).2⟩
  case alone => exact follows.alone
  case current => exact follows.current
  case tracked =>
    intro live read hasRead
    cases hasRead with
    | watches strand store seen member duty =>
        exact accountAt?_append (follows.tracked live _ (.watches strand store _ member duty))
          account
    | ended through =>
        have still := through watcher present
        rw [watches] at still
        cases still

end Follows

theorem Following.reached (following : Following evolves history provider) :
    ∃ first : Provider Bench, first.IsFresh ∧
      Relation.ReflTransGen (Transition evolves) first provider := by
  induction following with
  | start first fresh _ _ => exact ⟨first, fresh, .refl⟩
  | watch provider account _ ih =>
      exact ih.imp fun _ reached => ⟨reached.1, reached.2.tail (.watchAccounts provider account)⟩
  | publish history provider account _ _ ih =>
      exact ih.imp fun _ reached => ⟨reached.1, reached.2.tail (.publishAccount provider 0 account)⟩
  | goesOn history before after _ transition _ _ ih =>
      exact ih.imp fun _ reached => ⟨reached.1, reached.2.tail transition⟩

theorem Following.unselected (following : Following evolves history provider) :
    ∀ strand ∈ provider.strands, strand.selects = false := by
  induction following with
  | start first fresh _ _ => simp [fresh.strands]
  | watch provider account _ ih =>
      intro strand member
      rcases List.mem_append.mp member with old | new
      · exact ih strand old
      · rw [List.mem_singleton.mp new]
        rfl
  | publish history provider account _ _ ih =>
      have same : (provider.publishAccount 0 account).strands = provider.strands := by
        simp only [publishAccount]
        split <;> rfl
      rw [same]
      exact ih
  | goesOn _ _ _ _ _ _ unselected _ => exact unselected

theorem Following.distinct (following : Following evolves history provider) :
    provider.Distinct := by
  obtain ⟨first, fresh, transitions⟩ := following.reached
  exact (Reachable.run ⟨first, fresh.toIsNew, transitions⟩).1

theorem Following.follows (following : Following evolves history provider) :
    provider.Follows history := by
  induction following with
  | start first fresh untracked unopened =>
      have through : ∀ strand ∈ first.strands, strand.duty.isWatcher = false := by
        simp [fresh.strands]
      constructor
      case stored => rw [unopened]; rfl
      case watched => simp [fresh.strands]
      case alone => simp [fresh.strands]
      case current => simp [fresh.strands]
      case tracked =>
        intro _ read hasRead
        cases hasRead with
        | watches strand store seen present _ =>
            rw [fresh.strands] at present
            cases present
        | ended => rw [untracked]; rfl
  | watch provider account _ ih => exact ih.watch account
  | publish history provider account _ watched ih => exact ih.publish watched account
  | @goesOn history before after earlier transition kept _ ih =>
      have simulated := transition.simulates earlier.distinct
      rcases transition.outside with ⟨strand, member, _, rfl⟩ | outside
      · have turned := ih.advance earlier.distinct member (earlier.unselected strand member)
        refine turned.outside letGo_outside (by rw [letGo_stores]) fun goesOn => ?_
        have turn : Simulates evolves before (before.advance strand) :=
          advance_simulates earlier.distinct member
        have ends : Simulates evolves (before.advance strand) (before.advance strand).letGo :=
          Acts.simulates turn.distinct (letGo_edits.acts (by decide))
        exact ends.steps.isOver_of goesOn
      · exact ih.outside outside kept simulated.steps.isOver_of

/-! Launches. -/

theorem advance_of_launch {launch : Launch Bench}
    (launched : provider.launch? strand = some launch) :
    launch.IsAllowed ∧ (provider.advance strand).tracking.account = launch.account ∧
      (provider.advance strand).isCancelled = false := by
  obtain ⟨work, next, takes, launched⟩ := takes_of_launch launched
  obtain ⟨allowed, _, _⟩ := of_launch launched
  obtain ⟨token, pursues⟩ :=
    launch.instant.connection.connect_pursues launch.wallet (.device launch.deviceId)
  have follows : (launch.instant.setConnection
      (launch.instant.connection.connect launch.wallet (.device launch.deviceId)).1).PursuesCurrent
        (some launch.epoch) launch.result :=
    followAttempt_pursuesCurrent launch.epoch launch.account launch.trigger pursues
  rw [advance_of_work takes, perform_eq, result_of_launch launched, proceed_tracking]
  refine ⟨allowed, follows.keeps.account.trans allowed.account, ?_⟩
  rw [isCancelled, proceed_connection, Launch.result, followAttempt_connection]
  exact (Connection.begin_cancelled (.connect launch.wallet (.device launch.deviceId))).trans
    allowed.live

omit [AdapterBench Bench] in
theorem exists_hasRead (history : List Account) (provider : Provider Bench) :
    ∃ read, HasRead history provider read := by
  by_cases watched : ∃ strand ∈ provider.strands, strand.duty.isWatcher = true
  · obtain ⟨strand, member, watches⟩ := watched
    cases duty : strand.duty with
    | watcher store seen => exact ⟨seen, .watches strand store seen member duty⟩
    | _ => rw [duty] at watches; cases watches
  · refine ⟨_, .ended fun strand member => ?_⟩
    by_contra watches
    exact watched ⟨strand, member, by simpa using watches⟩

/-- A connect that nobody asked for is for the account that the watcher read last. That is the one
that the store holds at this instant exactly if no other account was published since; for whatever
the watcher waits is for the account that it read, so that no publication throws it away. -/
theorem launch_follows_last_read (following : Following evolves history provider)
    (member : strand ∈ provider.strands) :
    (∀ launch, provider.launch? strand = some launch → ∃ read accounts,
      HasRead history (provider.advance strand) (some read) ∧
      history[read]? = some launch.account ∧
      provider.store? 0 = some accounts ∧ history.getLast? = some accounts.published.value ∧
      (launch.account = accounts.published.value ↔ history[read]? = history.getLast?)) ∧
    (strand.duty.isWatcher = true → ∀ epoch, strand.pursued? = some epoch →
      provider.tracking.epoch = epoch) := by
  refine ⟨?_, following.follows.current strand member⟩
  intro launch launched
  have follows := following.follows.advance following.distinct member
    (following.unselected strand member)
  obtain ⟨allowed, account, live⟩ := advance_of_launch launched
  obtain ⟨read, hasRead⟩ := exists_hasRead history (provider.advance strand)
  have known := follows.tracked live read hasRead
  rw [account] at known
  cases read with
  | none =>
      -- Before the first account is read, none is tracked that a wallet holds.
      have named := allowed.wallet
      rw [← Option.some.inj known] at named
      cases named
  | some read =>
      have published : history ≠ [] := by
        rintro rfl
        cases known
      obtain ⟨accounts, only, holds⟩ := following.follows.store published
      obtain ⟨last, ends, same⟩ := Option.map_eq_some_iff.mp holds
      have newest : history.getLast? = some accounts.published.value := by rw [ends, ← same]
      refine ⟨read, accounts, hasRead, known, store?_of_stores only, newest, ?_⟩
      have found : history[read]? = some launch.account := known
      rw [found, newest, Option.some_inj]

def readingFirst : Provider SimulatedBench :=
  let paired := (ofBench {}).setHost
    { paired := [(.webHid, { vendorId := 0x2c97, productId := 1 })], latency := 10 }
  let watching := (paired.watchAccounts (.ofWallet .ledger "0x1")).1
  (watching.advance { id := 0, duty := .watcher 0 none }).letGo

def searchingFirst : Provider SimulatedBench :=
  ({ readingFirst with now := 10 }.advance
    { id := 0, duty := .watcher 0 (some 0)
      call := some (.accountCheck 1 ⟨1, .granted⟩, 10) }).letGo

def searchingWatcher : Strand where
  id := 0
  duty := .watcher 0 (some 0)
  call := some (.search 1 (.ok (some "1")), 20)

theorem searchingFirst_following :
    Following (fun _ _ => True) [.ofWallet .ledger "0x1"] searchingFirst := by
  have paired : Following (fun _ _ => True) [] ((ofBench {}).setHost
      { paired := [(.webHid, { vendorId := 0x2c97, productId := 1 })], latency := 10 }) :=
    .goesOn _ _ _ (.start _ (ofBench_isFresh {}) rfl rfl) (.onHost _ _) rfl (by decide)
  have reading : Following (fun _ _ => True) [.ofWallet .ledger "0x1"] readingFirst :=
    .goesOn _ _ _ (.watch _ (.ofWallet .ledger "0x1") paired) (.advance _ _ (.head _) rfl) rfl
      (by decide)
  have later : Following (fun _ _ => True) [.ofWallet .ledger "0x1"]
      { readingFirst with now := 10 } :=
    .goesOn _ _ _ reading (.wait _ 10 (by decide)) rfl (by decide)
  exact .goesOn _ _ _ later (.advance _ _ (.head _) rfl) rfl (by decide)

theorem launch_follows_last_read_searchingFirst :
    ∃ launch, { searchingFirst with now := 20 }.launch? searchingWatcher = some launch ∧
      launch.account = .ofWallet .ledger "0x1" := by
  have following : Following (fun _ _ => True) [.ofWallet .ledger "0x1"]
      { searchingFirst with now := 20 } :=
    .goesOn _ _ _ searchingFirst_following (.wait _ 20 (by decide)) rfl (by decide)
  have member : searchingWatcher ∈ searchingFirst.strands := .head _
  obtain ⟨launch, launched⟩ : ∃ launch,
      { searchingFirst with now := 20 }.launch? searchingWatcher = some launch :=
    Option.isSome_iff_exists.mp rfl
  obtain ⟨read, accounts, _, known, _⟩ :=
    (launch_follows_last_read following member).1 launch launched
  exact ⟨launch, launched, List.mem_singleton.mp (List.mem_of_getElem? known)⟩

def publishedMeanwhile : Provider SimulatedBench :=
  { searchingFirst.publishAccount 0 inSoftware with now := 20 }

theorem launch_for_replaced_account :
    Following (fun _ _ => True) [.ofWallet .ledger "0x1", inSoftware] publishedMeanwhile ∧
      searchingWatcher ∈ publishedMeanwhile.strands ∧
      publishedMeanwhile.canMove searchingWatcher = true ∧
      (publishedMeanwhile.store? 0).map (·.published.value) = some inSoftware ∧
      ∃ launch, publishedMeanwhile.launch? searchingWatcher = some launch ∧
        launch.account = .ofWallet .ledger "0x1" := by
  have published : Following (fun _ _ => True) [.ofWallet .ledger "0x1", inSoftware]
      (searchingFirst.publishAccount 0 inSoftware) :=
    .publish [.ofWallet .ledger "0x1"] searchingFirst inSoftware searchingFirst_following rfl
  refine ⟨.goesOn _ _ _ published (.wait _ 20 (by decide)) rfl (by decide), .head _, rfl, rfl,
    _, rfl, rfl⟩

end Provider

end SignerLink
