import SignerLink.Proofs.Provider.Release
import SignerLink.Proofs.Provider.Simulation
/-!
Whatever a provider does to its permission gate is a run of the gate, with the permission calls for
which its strands wait.
-/

namespace SignerLink

def PermissionRun.calls (run : PermissionRun) : Multiset PermissionCall :=
  run.waiting.map Asking.call

namespace PermissionGate

def pending (asked : Option PermissionCall) : Multiset PermissionCall :=
  asked.elim 0 fun call => {call}

def Leads (before : PermissionGate) (taken : Multiset PermissionCall) (after : PermissionGate)
    (left : Multiset PermissionCall) : Prop :=
  ∀ run : PermissionRun, run.gate = before → ∀ others, run.calls = taken + others →
    ∃ next, PermissionRun.Steps run next ∧ next.gate = after ∧ next.calls = left + others

namespace Leads

variable {first second third : PermissionGate} {taken between left : Multiset PermissionCall}

theorem refl (gate : PermissionGate) (calls : Multiset PermissionCall) :
    gate.Leads calls gate calls :=
  fun run same _ calls => ⟨run, .refl, same, calls⟩

theorem trans (earlier : first.Leads taken second between)
    (later : second.Leads between third left) : first.Leads taken third left := by
  intro run same others calls
  obtain ⟨middle, steps, gate, waits⟩ := earlier run same others calls
  obtain ⟨last, more, end_, rest⟩ := later middle gate others waits
  exact ⟨last, steps.trans more, end_, rest⟩

theorem begun (gate : PermissionGate) (query : PermissionQuery) :
    gate.Leads 0 (gate.begin query.learns).1 {(gate.begin query.learns).2} := by
  intro run same others calls
  refine ⟨run.begin query, .single (.begin run query), by rw [← same]; rfl, ?_⟩
  rw [zero_add] at calls
  rw [← calls, ← same, Multiset.singleton_add]
  exact Multiset.map_cons _ _ _

theorem committed (gate : PermissionGate) (call : PermissionCall) :
    gate.Leads {call} (gate.commit call) 0 := by
  intro run same others calls
  rw [Multiset.singleton_add] at calls
  obtain ⟨asking, member, rfl, rest⟩ := (Multiset.map_eq_cons _ _ _ _).mpr calls
  refine ⟨run.finish asking, .single (.finish run asking member), by rw [← same]; rfl, ?_⟩
  rw [zero_add]
  exact rest

theorem reset (gate : PermissionGate) : gate.Leads 0 gate.reset 0 :=
  (begun gate .reset).trans (committed _ _)

theorem cancelled (gate : PermissionGate) (calls : Multiset PermissionCall) :
    gate.Leads calls gate.cancel calls :=
  fun run same _ calls => ⟨run.cancel, .single (.cancel run), by rw [← same]; rfl, calls⟩

theorem beside (leads : first.Leads taken second left) (others : Multiset PermissionCall) :
    first.Leads (taken + others) second (left + others) := by
  intro run same more calls
  rw [add_assoc] at calls ⊢
  exact leads run same (others + more) calls

end Leads

end PermissionGate

namespace Provider

variable {Bench : Type} {before middle after provider : Provider Bench}

/-- What a piece of work does to the gate, and the call for which it waits in the end. -/
def Consults (before : Provider Bench) (taken : Option PermissionCall)
    (result : Provider Bench × Step) : Prop :=
  before.permission.Leads (PermissionGate.pending taken) result.1.permission
    (PermissionGate.pending result.2.asked?)

variable {result : Provider Bench × Step}

theorem Consults.silent (same : result.1.permission = before.permission)
    (silent : result.2.asked? = none) : before.Consults none result := by
  rw [Consults, same, silent]
  exact .refl _ _

theorem Consults.later {taken : Option PermissionCall}
    (rest : middle.Consults none result)
    (first : before.permission.Leads (PermissionGate.pending taken) middle.permission 0) :
    before.Consults taken result := first.trans rest

theorem Consults.ite {condition : Prop} [Decidable condition] {yes no : Provider Bench × Step}
    {taken : Option PermissionCall} (first : before.Consults taken yes)
    (second : before.Consults taken no) :
    before.Consults taken (if condition then yes else no) := by
  split
  · exact first
  · exact second

variable [AdapterBench Bench]

theorem Edits.permission {kinds : List EditKind} (edits : before.Edits kinds after)
    (apart : .permission ∉ kinds) (goesOn : .ending ∉ kinds) :
    after.permission = before.permission := by
  refine edits.keeps (fun before after => after.permission = before.permission) (fun _ => rfl)
    (fun first rest => rest.trans first) fun kind member _ _ edit => ?_
  cases edit with
  | permit _ _ _ _ => exact absurd member apart
  | cancel _ | tearDown _ _ => exact absurd member goesOn
  | _ => rfl

theorem Errand.consults {taken : Multiset ConnectionCall}
    (errand : Errand provider taken result) : provider.Consults none result :=
  .silent (errand.edits.permission (by decide) (by decide)) errand.plain.asked?_none

theorem evaluate_consults (epoch : Nat) (trigger : Trigger) :
    provider.Consults none (provider.evaluate epoch trigger) :=
  .silent ((evaluate_edits epoch trigger).permission (by decide) (by decide))
    (evaluate_silent epoch trigger)

theorem accountChecked_consults (epoch : Nat) (call : PermissionCall) :
    provider.Consults (some call) (provider.accountChecked epoch call) := by
  have committed := PermissionGate.Leads.committed provider.permission call
  exact .ite (.later (evaluate_consults _ _) committed) committed

theorem attachChecked_consults (epoch : Nat) (deviceId : String) (call : PermissionCall) :
    provider.Consults (some call) (provider.attachChecked epoch deviceId call) := by
  have committed := PermissionGate.Leads.committed provider.permission call
  exact .ite (.later (evaluate_consults _ _) committed) committed

/-! Account selections and plug events. -/

omit [AdapterBench Bench] in
theorem beginCheck_leads (provider : Provider Bench) (wallet : Wallet) :
    provider.permission.Leads 0 (provider.beginCheck wallet).1.permission
      {(provider.beginCheck wallet).2.1} :=
  .begun provider.permission (.check ((provider.host.inquire wallet).2.answer.permission wallet))

theorem selectAccount_consults (account : Account) :
    provider.Consults none (provider.selectAccount account) := by
  simp only [selectAccount]
  split
  next => exact .silent rfl rfl
  next =>
    split
    next => exact .reset provider.permission
    next wallet _ =>
      have turned : ((provider.track account).turnTo wallet).permission = provider.permission :=
        (turnTo_edits wallet).permission (by decide) (by decide)
      have began := beginCheck_leads ((provider.track account).turnTo wallet) wallet
      rw [turned] at began
      split
      next => exact began.trans (accountChecked_consults _ _)
      next => exact began

theorem plugEvent_consults (event : PlugEvent) :
    provider.Consults none (provider.plugEvent event) := by
  have nothing : provider.Consults none (provider, .finished .done) := .silent rfl rfl
  simp only [plugEvent]
  split
  next => exact nothing
  next =>
    split
    next => exact nothing
    next wallet _ =>
      split
      next device => exact .ite (.silent rfl rfl) nothing
      next device =>
        split
        next => exact nothing
        next =>
          split
          next => exact (beginCheck_leads provider wallet).trans (attachChecked_consults _ _ _)
          next => exact beginCheck_leads provider wallet

/-! Requests. -/

omit [AdapterBench Bench] in
theorem checkPermission_consults (wallet : Wallet) :
    provider.Consults none (provider.checkPermission wallet) := by
  have began := beginCheck_leads provider wallet
  exact .ite (began.trans (.committed _ _)) began

omit [AdapterBench Bench] in
theorem requestPermission_consults (wallet : Wallet) :
    provider.Consults none (provider.requestPermission wallet) := by
  have began := PermissionGate.Leads.begun provider.permission
    (.request ((provider.host.request wallet).2.answer.isGrant wallet))
  exact .ite (began.trans (.committed _ _)) began

theorem shutdown_consults : provider.Consults none provider.shutdown := by
  simp only [shutdown]
  split
  · exact .silent rfl rfl
  · exact .later (join_errand _ _).consults (.cancelled provider.permission 0)

theorem begin_consults (request : Request) :
    provider.Consults none (provider.begin request) := by
  cases request with
  | selectAccount account => exact selectAccount_consults account
  | plugEvent event => exact plugEvent_consults event
  | shutdown => exact shutdown_consults
  | checkPermission wallet =>
      simp only [begin]
      split
      · exact .silent rfl rfl
      · exact checkPermission_consults _
  | requestPermission wallet =>
      simp only [begin]
      split
      · exact .silent rfl rfl
      · exact requestPermission_consults _
  | _ => exact (begin_errand rfl).consults

theorem resume_consults (call : Call) :
    provider.Consults call.permission? (provider.resume call) := by
  cases call with
  | autoConnect epoch account trigger call =>
      refine .silent ?_ (followAttempt_silent _ _ _ _)
      exact (followAttempt_edits _ _ _ _).permission (by decide) (by decide)
  | permission call reply selection => exact .committed provider.permission call
  | accountCheck epoch call => exact accountChecked_consults epoch call
  | attachCheck epoch deviceId call => exact attachChecked_consults epoch deviceId call
  | search epoch found =>
      exact .silent ((searched_edits epoch found).permission (by decide) (by decide))
        (searched_silent epoch found)
  | _ => exact (resume_errand rfl).consults

/-! Strands. -/

def askedBy (strand : Strand) : Multiset PermissionCall := PermissionGate.pending strand.asked?

def asked (provider : Provider Bench) : Multiset PermissionCall :=
  (provider.strands.map askedBy).sum

def taken? : Work → Option PermissionCall
  | .resume call => call.permission?
  | .begin _ _ | .evaluate _ _ => none

theorem perform_consults (work : Work) :
    provider.Consults (taken? work) (provider.perform work) := by
  cases work with
  | begin host request =>
      have began : (provider.setHost host).Consults none ((provider.setHost host).begin request) :=
        begin_consults request
      exact began
  | resume call => exact resume_consults call
  | evaluate epoch trigger => exact evaluate_consults epoch trigger

theorem perform_distinct (distinct : provider.Distinct) (work : Work) :
    (provider.perform work).1.Distinct := by
  cases work with
  | begin host request =>
      have asked : (provider.setHost host).Distinct := ⟨distinct.nodup, distinct.below⟩
      have does : Does (fun _ _ => True) (provider.setHost host) 0 _ := begin_does request
      exact does.distinct asked
  | resume call =>
      have does : Does (fun _ _ => True) provider _ _ := resume_does call
      exact does.distinct distinct
  | evaluate epoch trigger =>
      have does : Does (fun _ _ => True) provider 0 _ := evaluate_does epoch trigger
      exact does.distinct distinct

omit [AdapterBench Bench] in
theorem askedBy_taken {strand next : Strand} {work : Work}
    (takes : provider.work? strand = some (work, next)) :
    askedBy strand = PermissionGate.pending (taken? work) := by
  cases waits : strand.call with
  | none =>
      have silent : taken? work = none := by
        cases work with
        | resume call =>
            obtain ⟨due, waited⟩ := call_of_resume takes
            rw [waits] at waited
            cases waited
        | begin _ _ | evaluate _ _ => rfl
      rw [askedBy, Strand.asked?_idle waits, silent]
  | some waiting =>
      obtain ⟨call, due⟩ := waiting
      rw [work?_resume waits] at takes
      cases takes
      rw [askedBy, Strand.asked?, waits]
      rfl

omit [AdapterBench Bench] in
theorem Grows.adds (grows : before.Grows after) : Adds askedBy before after := by
  obtain ⟨spawned, same, idle⟩ := grows.strands
  refine ⟨spawned, same, ?_⟩
  intro strand member
  rw [askedBy, Strand.asked?_idle (idle strand member)]
  rfl

/-- From one provider to the other, the gate has gone through a run, with the calls in which the
strands wait. -/
def LeadsTo (before after : Provider Bench) : Prop :=
  before.permission.Leads before.asked after.permission after.asked

omit [AdapterBench Bench] in
theorem LeadsTo.aside (permission : after.permission = before.permission)
    (asked : after.asked = before.asked) : before.LeadsTo after := by
  rw [LeadsTo, permission, asked]
  exact .refl _ _

omit [AdapterBench Bench] in
theorem proceed_leadsTo {strand next : Strand} {taken : Option PermissionCall}
    {result : Provider Bench × Step} (consults : before.Consults taken result)
    (asks : askedBy strand = PermissionGate.pending taken) (grows : before.Grows result.1)
    (distinct : result.1.Distinct) (member : strand ∈ before.strands)
    (same : next.id = strand.id) : before.LeadsTo (result.1.proceed next result.2) := by
  obtain ⟨middle, step⟩ := result
  have put (later : Strand) (kept : later.id = strand.id)
      (pends : askedBy later = PermissionGate.pending step.asked?) :
      before.LeadsTo (middle.put later) := by
    obtain ⟨others, earlier, afterwards⟩ := grows.adds.sum_put distinct member kept
    rw [LeadsTo, asked, asked, earlier, afterwards, asks, pends]
    exact consults.beside others
  cases step with
  | waiting call milliseconds =>
      exact put { next with call := some (call, middle.now + milliseconds) } same rfl
  | finished reply =>
      have removed : before.LeadsTo (middle.remove next.id) := by
        obtain ⟨others, earlier, afterwards⟩ := grows.adds.sum_remove distinct member
        have led : before.permission.Leads (PermissionGate.pending taken + others)
            middle.permission (0 + others) := consults.beside others
        rw [zero_add] at led
        rw [LeadsTo, same, asked, asked, earlier, afterwards, asks]
        exact led
      simp only [proceed]
      split
      next => exact removed
      next => exact removed
      next => exact put { next with call := none } same rfl

theorem advance_leadsTo {strand : Strand} (distinct : provider.Distinct)
    (member : strand ∈ provider.strands) : provider.LeadsTo (provider.advance strand) := by
  cases takes : provider.work? strand with
  | none =>
      have pauses := advance_pauses takes
      refine .aside pauses.permission ?_
      rcases pauses.strands with same | ended
      · rw [asked, asked, same]
      · have adds : Adds askedBy provider provider := ⟨[], by simp, by simp⟩
        obtain ⟨others, earlier, afterwards⟩ := adds.sum_remove distinct member
        have silent : askedBy strand = 0 := by
          rw [askedBy, Strand.asked?_idle pauses.idle]
          rfl
        rw [asked, asked, ended, earlier, afterwards, silent, zero_add]
  | some taken =>
      obtain ⟨work, next⟩ := taken
      rw [advance_of_work takes]
      exact proceed_leadsTo (perform_consults work) (askedBy_taken takes)
        (perform_grows work) (perform_distinct distinct work) member (work?_id takes)

/-! Transitions. -/

omit [AdapterBench Bench] in
theorem Grows.leadsTo (grows : before.Grows after)
    (permission : after.permission = before.permission) : before.LeadsTo after :=
  .aside permission grows.adds.sum

theorem letGo_leadsTo : provider.LeadsTo provider.letGo := by
  have same : provider.letGo.asked = provider.asked := by rw [asked, letGo_strands, asked]
  rw [LeadsTo, same]
  simp only [letGo]
  split
  next => exact .refl _ _
  next =>
    split
    next => split <;> exact .cancelled provider.permission _
    next => split <;> exact .refl _ _

omit [AdapterBench Bench] in
theorem LeadsTo.trans (earlier : before.LeadsTo middle) (later : middle.LeadsTo after) :
    before.LeadsTo after := PermissionGate.Leads.trans earlier later

variable {evolves : Bench → Bench → Prop}

theorem Transition.leadsTo (transition : Transition evolves before after)
    (distinct : before.Distinct) : before.LeadsTo after := by
  cases transition with
  | request request => exact (Grows.spawned _).leadsTo rfl
  | advance strand member _ => exact (advance_leadsTo distinct member).trans letGo_leadsTo
  | subscribe wallet =>
      have edits := before.subscribe_edits wallet
      exact edits.grows.leadsTo (edits.permission (by decide) (by decide))
  | resetPermission =>
      have led := (PermissionGate.Leads.reset before.permission).beside before.asked
      rw [zero_add] at led
      exact led
  | startPump =>
      refine startPump_grows.leadsTo ?_
      simp only [Provider.startPump]
      split <;> rfl
  | watchAccounts account => exact (watchAccounts_grows account).leadsTo rfl
  | publishAccount store account =>
      refine (publishAccount_grows store account).leadsTo ?_
      simp only [Provider.publishAccount]
      split <;> rfl
  | cancel => exact .cancelled before.permission before.asked
  | drop =>
      have released : before.LeadsTo { before with held := false } := .aside rfl rfl
      exact released.trans letGo_leadsTo
  | wait _ _ | react _ _ | onBench _ _ | onHost _ | stopListening | closeStore _ =>
      exact .aside rfl rfl

/-- The permission gate of a provider has gone through a run, and the calls that wait there are
those in which strands of the provider wait. -/
theorem IsFresh.permission_run {first : Provider Bench} (fresh : first.IsFresh)
    (transitions : Relation.ReflTransGen (Transition evolves) first provider) :
    ∃ run : PermissionRun, PermissionRun.Steps (.start {}) run ∧
      run.gate = provider.permission ∧ run.calls = provider.asked := by
  have led : provider.Distinct ∧ first.LeadsTo provider := by
    induction transitions with
    | refl =>
        exact ⟨⟨by simp [fresh.strands], by simp [fresh.strands]⟩, .aside rfl rfl⟩
    | tail _ transition ih =>
        obtain ⟨distinct, led⟩ := ih
        exact ⟨(transition.simulates distinct).distinct,
          led.trans (transition.leadsTo distinct)⟩
  have none : first.asked = 0 := by simp [asked, fresh.strands]
  have begun : (PermissionRun.start {}).calls = first.asked + 0 := by
    rw [none]
    rfl
  obtain ⟨run, steps, gate, calls⟩ := led.2 (.start {}) fresh.permission.symm 0 begun
  rw [add_zero] at calls
  exact ⟨run, steps, gate, calls⟩

end Provider

end SignerLink
