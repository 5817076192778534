import SignerLink.Proofs.Provider.Permission
import SignerLink.Proofs.Provider.Pursuit
/-!
The permission check of an account selection. Once it has its answer, a device is searched for if
permission is granted by then: by this answer, or, if another permission call has begun since, by
the one that was written last.
-/

namespace SignerLink

namespace Provider

variable {Bench : Type}

/-- Nothing but permission is missing to connect for the account selection. -/
structure IsDisposed [AdapterBench Bench] (provider : Provider Bench) (epoch : Nat) : Prop where
  enabled : provider.policy.enabled = true
  current : provider.isCurrent epoch = true
  free : provider.connection.isBusy = false
  incomplete : provider.tracking.completedFor ≠ some provider.tracking.account

variable [AdapterBench Bench]

/-- The provider once it has selected a wallet's account and asks for permission. -/
def checking (provider : Provider Bench) (account : Account) (wallet : Wallet) :
    Provider Bench × PermissionCall × Nat :=
  ((provider.track account).turnTo wallet).beginCheck wallet

/-- The turn of the strand brings the answer of the permission check that was made for an account
selection. The strand has waited for it, or the host answers at once. -/
inductive Checks (provider : Provider Bench) (strand : Strand) :
    Provider Bench → Nat → PermissionCall → Prop where
  | waited (epoch : Nat) (call : PermissionCall) (due : Nat) :
      strand.call = some (.accountCheck epoch call, due) →
      Checks provider strand provider epoch call
  | atOnce (host : MemoryHost) (account : Account) (wallet : Wallet) (next : Strand) :
      provider.work? strand = some (.begin host (.selectAccount account), next) →
      provider.isCancelled = false → account ≠ provider.tracking.account →
      account.wallet? = some wallet →
      ((provider.setHost host).checking account wallet).2.2 = 0 →
      Checks provider strand ((provider.setHost host).checking account wallet).1
        (provider.tracking.epoch + 1) ((provider.setHost host).checking account wallet).2.1

/-- The turn of the strand goes on to a search for a device. -/
def Discovers (provider : Provider Bench) (strand : Strand) (epoch : Nat) : Prop :=
  ∃ start wallet account found,
    provider.course? strand = some (.evaluation start epoch .accountChanged) ∧
      start.Asks epoch wallet account found

variable {provider asked : Provider Bench} {strand : Strand} {epoch : Nat}
  {call : PermissionCall}

/-! Searching. -/

theorem IsDisposed.eligible? (disposed : provider.IsDisposed epoch) {wallet : Wallet}
    (named : provider.wallet? = some wallet) (gate : PermissionGate) :
    (provider.setPermission gate).eligible? epoch .accountChanged =
      if gate.state = .granted then some (wallet, provider.tracking.account) else none := by
  have known := disposed.current
  simp only [isCurrent, Bool.and_eq_true, Bool.not_eq_true', beq_iff_eq] at known
  have live : (provider.setPermission gate).isCancelled = false := known.1
  have matched : provider.tracking.account.wallet? = some wallet := named
  simp only [Provider.eligible?, live]
  simp only [setPermission, disposed.enabled, known.2, matched, disposed.incomplete,
    disposed.free, Bool.not_true, bne_self_eq_false, Bool.or_false, Bool.false_eq_true, if_false,
    and_false, ne_eq, ite_not]

theorem evaluate_host_of_eligible {wallet : Wallet} {account : Account}
    (eligible : provider.eligible? epoch .accountChanged = some (wallet, account)) :
    (provider.evaluate epoch .accountChanged).1.host = (provider.host.inquire wallet).1 := by
  simp only [evaluate, eligible]
  split
  · exact (searched_edits _ _).host (by decide) (by decide)
  · rfl

/-! Where the answer arrives. -/

namespace Checks

theorem course (checks : provider.Checks strand asked epoch call) :
    provider.course? strand = some (asked.accountCheckedCourse epoch call) := by
  cases checks with
  | waited _ _ due waits => rw [course?, work?_resume waits]; rfl
  | atOnce host account wallet next takes live other named instant =>
      have changed : (provider.tracking.account == account) = false :=
        beq_eq_false_iff_ne.mpr (Ne.symm other)
      have goes : ((provider.setHost host).isCancelled ||
          (provider.setHost host).tracking.account == account) = false := by
        simp only [setHost, isCancelled, changed, Bool.or_false]
        exact live
      rw [course?, takes, Option.map_some]
      simp only [Provider.course, selectAccountCourse, goes, named, Bool.false_eq_true, if_false]
      exact congrArg some (if_pos instant)

theorem named (checks : provider.Checks strand asked epoch call) (timely : provider.IsTimely)
    (member : strand ∈ provider.strands) (current : asked.isCurrent epoch = true) :
    ∃ wallet, asked.wallet? = some wallet := by
  cases checks with
  | waited _ _ due waits =>
      simp only [isCurrent, Bool.and_eq_true, beq_iff_eq] at current
      exact Option.isSome_iff_exists.mp
        (timely.hardware strand member epoch call due waits current.2)
  | atOnce host account wallet next takes live other named instant =>
      have turned : ((provider.setHost host).track account).AddsNoRetry
          ((provider.setHost host).checking account wallet).1 :=
        ((turnTo_edits wallet).addsNoRetry (by decide)).trans
          ((beginCheck_edits wallet).addsNoRetry (by decide))
      refine ⟨wallet, ?_⟩
      rw [wallet?, turned.account]
      exact named

theorem orderly (checks : provider.Checks strand asked epoch call)
    (orderly : provider.IsOrderly) : asked.permission.cancelled = asked.isCancelled := by
  cases checks with
  | waited => exact orderly.cancelled
  | atOnce host account wallet =>
      have grows : (provider.setHost host).Grows
          ((provider.setHost host).checking account wallet).1 :=
        ((track_grows account).trans (turnTo_edits wallet).grows).trans
          (beginCheck_edits wallet).grows
      exact grows.agree orderly.cancelled

theorem run {evolves : Bench → Bench → Prop} {first : Provider Bench} (fresh : first.IsFresh)
    (transitions : Relation.ReflTransGen (Transition evolves) first provider)
    (member : strand ∈ provider.strands) (checks : provider.Checks strand asked epoch call) :
    ∃ run : PermissionRun, PermissionRun.Steps (.start {}) run ∧
      run.gate = asked.permission ∧ call ∈ run.calls := by
  obtain ⟨run, steps, gate, calls⟩ := fresh.permission_run transitions
  cases checks with
  | waited _ _ due waits =>
      refine ⟨run, steps, gate, ?_⟩
      have asks : askedBy strand = {call} := by
        rw [askedBy, Strand.asked?, waits]
        rfl
      rw [calls]
      exact mem_sum_of_mem member (asks ▸ Multiset.mem_singleton_self call)
  | atOnce host account wallet next takes live other named instant =>
      have turned : (((provider.setHost host).track account).turnTo wallet).permission =
          provider.permission :=
        (turnTo_edits wallet).permission (by decide) (by decide)
      have began := beginCheck_leads (((provider.setHost host).track account).turnTo wallet) wallet
      rw [turned] at began
      obtain ⟨later, more, ends, waits⟩ := began run gate provider.asked (by rw [calls, zero_add])
      refine ⟨later, steps.trans more, ends, ?_⟩
      rw [waits]
      exact Multiset.mem_add.mpr (.inl (Multiset.mem_singleton_self _))

theorem course_of_disposed (checks : provider.Checks strand asked epoch call)
    (disposed : asked.IsDisposed epoch) :
    provider.course? strand =
      some (.evaluation (asked.setPermission (asked.permission.commit call)) epoch
        .accountChanged) := by
  rw [checks.course, accountCheckedCourse]
  exact congrArg some (if_pos disposed.current)

theorem discovers_iff (checks : provider.Checks strand asked epoch call)
    (disposed : asked.IsDisposed epoch) {wallet : Wallet} (named : asked.wallet? = some wallet) :
    provider.Discovers strand epoch ↔ (asked.permission.commit call).state = .granted := by
  have eligible := disposed.eligible? named (asked.permission.commit call)
  constructor
  · rintro ⟨start, other, account, found, course, asks⟩
    rw [checks.course_of_disposed disposed] at course
    cases course
    by_contra missing
    rw [if_neg missing] at eligible
    cases eligible.symm.trans asks.eligible
  · intro granted
    rw [if_pos granted] at eligible
    exact ⟨_, _, _, _, checks.course_of_disposed disposed, eligible, rfl⟩

theorem host (checks : provider.Checks strand asked epoch call)
    (disposed : asked.IsDisposed epoch) {wallet : Wallet} (named : asked.wallet? = some wallet) :
    (provider.Discovers strand epoch →
      (provider.advance strand).host = (asked.host.inquire wallet).1) ∧
    (¬provider.Discovers strand epoch → (provider.advance strand).host = asked.host) := by
  have eligible := disposed.eligible? named (asked.permission.commit call)
  obtain ⟨next, _, advanced⟩ := advance_of_course (checks.course_of_disposed disposed)
  rw [checks.discovers_iff disposed named, advanced, proceed_host]
  constructor
  · intro granted
    rw [if_pos granted] at eligible
    exact evaluate_host_of_eligible eligible
  · intro missing
    rw [if_neg missing] at eligible
    exact congrArg (fun result => result.1.host) (evaluate_of_ineligible eligible)

end Checks

/-- With nothing but permission missing when the check has its answer, a device is searched for
exactly if permission is granted: by this answer as long as no permission call has begun since,
and else by the call whose result was written last. The host is asked for no other reason. -/
theorem latest_permission_decides_search {evolves : Bench → Bench → Prop}
    {first : Provider Bench} (fresh : first.IsFresh)
    (transitions : Relation.ReflTransGen (Transition evolves) first provider)
    (member : strand ∈ provider.strands) (checks : provider.Checks strand asked epoch call)
    (disposed : asked.IsDisposed epoch) :
    (∃ run asking, PermissionRun.Steps (.start {}) run ∧ run.gate = asked.permission ∧
      asking ∈ run.waiting ∧ asking.call = call ∧
      (run.begun.getLast? = some asking ↔ asked.permission.latest = call.number) ∧
      (run.begun.getLast? = some asking →
        (provider.Discovers strand epoch ↔ call.permission = .granted)) ∧
      (run.begun.getLast? ≠ some asking →
        (provider.Discovers strand epoch ↔
          ∃ last, run.written.getLast? = some last ∧ last.query.learns = .granted))) ∧
    ∃ wallet, asked.wallet? = some wallet ∧
      (provider.Discovers strand epoch →
        (provider.advance strand).host = (asked.host.inquire wallet).1) ∧
      (¬provider.Discovers strand epoch → (provider.advance strand).host = asked.host) := by
  have timely : provider.IsTimely := Reachable.isTimely ⟨first, fresh.toIsNew, transitions⟩
  obtain ⟨wallet, named⟩ := checks.named timely member disposed.current
  have decides := checks.discovers_iff disposed named
  have live : asked.permission.cancelled = false := by
    have current := disposed.current
    simp only [isCurrent, Bool.and_eq_true, Bool.not_eq_true'] at current
    exact (checks.orderly (fresh.orderly_run transitions)).trans current.1
  obtain ⟨run, steps, gate, waits⟩ := checks.run fresh transitions member
  obtain ⟨asking, waiting, same⟩ := Multiset.mem_map.mp waits
  have sound := steps.sound
  have newest : run.begun.getLast? = some asking ↔ asked.permission.latest = call.number := by
    rw [← gate, ← same]
    constructor
    · exact fun ends => (sound.newest asking ends).symm
    · intro current
      obtain ⟨earlier, place⟩ := sound.ends_in (sound.waits asking waiting).1 current
      rw [place, List.getLast?_concat]
  refine ⟨⟨run, asking, steps, gate, waiting, same, newest, ?_, ?_⟩, wallet, named,
    checks.host disposed named⟩
  · intro last
    rw [decides, PermissionGate.commit_state_of_accepted
      (PermissionGate.accepts_iff.mpr ⟨live, newest.mp last⟩)]
  · intro overtaken
    have refused : asked.permission.accepts call = false := by
      rw [← Bool.not_eq_true, PermissionGate.accepts_iff, ← newest]
      exact fun accepted => overtaken accepted.2
    rw [decides, PermissionGate.commit_of_refused refused, ← gate, sound.shown]
    cases written : run.written.getLast? with
    | none => simp [PermissionGate.state]
    | some last => simp

def selectingPaired : Provider SimulatedBench := (pairedOnce.spawn firstSelection.duty).1

theorem latest_permission_decides_search_selectingPaired :
    ∃ asked call, selectingPaired.Checks firstSelection asked 1 call ∧ asked.IsDisposed 1 ∧
      call.permission = .granted ∧ selectingPaired.Discovers firstSelection 1 := by
  have transitions :
      Relation.ReflTransGen (Transition fun _ _ => True) pairedOnce selectingPaired :=
    .single (.request pairedOnce _)
  have other : Account.ofWallet .ledger "0x1" ≠ selectingPaired.tracking.account := by decide
  have checks : selectingPaired.Checks firstSelection _ 1 _ :=
    .atOnce selectingPaired.host (.ofWallet .ledger "0x1") .ledger firstSelection rfl rfl other
      rfl rfl
  have disposed : ((selectingPaired.setHost selectingPaired.host).checking
      (.ofWallet .ledger "0x1") .ledger).1.IsDisposed 1 := ⟨rfl, rfl, rfl, by decide⟩
  obtain ⟨⟨run, asking, _, _, _, _, newest, decides, _⟩, _⟩ :=
    latest_permission_decides_search ⟨⟨rfl, rfl⟩, rfl⟩ transitions List.mem_cons_self checks
      disposed
  exact ⟨_, _, checks, disposed, rfl, (decides (newest.mpr rfl)).mpr rfl⟩

def selectingUnpaired : Provider SimulatedBench :=
  ((ofBench {}).setHost { latency := 10 }).begun (.selectAccount (.ofWallet .ledger "0x1"))

def obligingHost : MemoryHost :=
  { selectingUnpaired.host with
    latency := 0
    responses := [.select { vendorId := 0x2c97, productId := 1 }] }

def grantedMeanwhile : Provider SimulatedBench :=
  { (selectingUnpaired.setHost obligingHost).begun (.requestPermission (some .ledger)) with
    now := 10 }

def overtakenCheck : Strand where
  id := 0
  duty := .caller (.selectAccount (.ofWallet .ledger "0x1"))
  call := some (.accountCheck 1 ⟨1, .prompt⟩, 10)

theorem search_despite_ungranted_answer :
    ∃ first : Provider SimulatedBench, first.IsFresh ∧
      Relation.ReflTransGen (Transition fun _ _ => True) first grantedMeanwhile ∧
      overtakenCheck ∈ grantedMeanwhile.strands ∧
      grantedMeanwhile.canMove overtakenCheck = true ∧
      grantedMeanwhile.Checks overtakenCheck grantedMeanwhile 1 ⟨1, .prompt⟩ ∧
      grantedMeanwhile.IsDisposed 1 ∧ grantedMeanwhile.Discovers overtakenCheck 1 := by
  have selected : Relation.ReflTransGen (Transition fun _ _ => True) (ofBench {})
      selectingUnpaired := .trans (.single (.onHost _ { latency := 10 })) (begun_run _ _)
  have granted := (selected.tail (.onHost _ obligingHost)).trans
    (begun_run _ (.requestPermission (some .ledger)))
  have checks : grantedMeanwhile.Checks overtakenCheck grantedMeanwhile 1 ⟨1, .prompt⟩ :=
    .waited 1 ⟨1, .prompt⟩ 10 rfl
  have disposed : grantedMeanwhile.IsDisposed 1 := ⟨rfl, rfl, rfl, by decide⟩
  exact ⟨ofBench {}, ofBench_isFresh {}, granted.tail (.wait _ 10 (by decide)), .head _, rfl,
    checks, disposed, (checks.discovers_iff disposed rfl).mpr rfl⟩

end Provider

end SignerLink
