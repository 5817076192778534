import SignerLink.Proofs.Provider.Turn
import SignerLink.Proofs.Provider.Work
/-!
Whatever a provider does to its connection is a run of the connection, with the calls in which
its strands wait.
-/

namespace SignerLink

namespace Provider

variable {Bench : Type} [AdapterBench Bench] {evolves : Bench → Bench → Prop}
  {before middle after provider : Provider Bench} {taken left : Multiset ConnectionCall}

/-! Strands. -/

/-- A step of the provider is one of runs of its connection. -/
structure Simulates (evolves : Bench → Bench → Prop) (before after : Provider Bench) : Prop where
  distinct : after.Distinct
  steps : Run.Steps evolves before.run after.run

section Strands

variable {strand next : Strand} {front back : List Strand}

omit [AdapterBench Bench] in
theorem Distinct.others (distinct : provider.Distinct)
    (place : provider.strands = front ++ strand :: back) :
    ∀ other ∈ front ++ back, other.id ≠ strand.id := by
  have nodup := distinct.nodup
  rw [place, List.map_append, List.map_cons, List.nodup_middle, List.nodup_cons,
    ← List.map_append] at nodup
  intro other member same
  exact nodup.1 (same ▸ List.mem_map_of_mem member)

omit [AdapterBench Bench] in
theorem put_strands (distinct : provider.Distinct)
    (place : provider.strands = front ++ strand :: back) (same : next.id = strand.id) :
    (provider.put next).strands = front ++ next :: back := by
  have kept {some : List Strand} (apart : ∀ other ∈ some, other.id ≠ strand.id) :
      (some.map fun other => if other.id == strand.id then next else other) = some := by
    refine (List.map_congr_left fun other member => ?_).trans (List.map_id some)
    simp [apart other member]
  have others := distinct.others place
  simp only [put, place, List.map_append, List.map_cons, same, beq_self_eq_true, if_true]
  rw [kept fun other member => others other (List.mem_append_left back member),
    kept fun other member => others other (List.mem_append_right front member)]

omit [AdapterBench Bench] in
theorem remove_strands (distinct : provider.Distinct)
    (place : provider.strands = front ++ strand :: back) :
    (provider.remove strand.id).strands = front ++ back := by
  have kept : (front ++ back).filter (fun other => other.id != strand.id) = front ++ back :=
    List.filter_eq_self.mpr fun other member => bne_iff_ne.mpr (distinct.others place other member)
  rw [List.filter_append] at kept
  simpa [remove, place] using kept

omit [AdapterBench Bench] in
theorem sum_of_place {α : Type} (measure : Strand → Multiset α)
    (place : provider.strands = front ++ strand :: back) :
    (provider.strands.map measure).sum =
      measure strand + ((front.map measure).sum + (back.map measure).sum) := by
  simp only [place, List.map_append, List.map_cons, List.sum_append, List.sum_cons]
  exact add_left_comm _ _ _

omit [AdapterBench Bench] in
theorem mem_sum_of_mem {α : Type} {measure : Strand → Multiset α} {value : α}
    (member : strand ∈ provider.strands) (within : value ∈ measure strand) :
    value ∈ (provider.strands.map measure).sum := by
  obtain ⟨front, back, place⟩ := List.append_of_mem member
  rw [sum_of_place measure place]
  exact Multiset.mem_add.mpr (.inl within)

theorem sum_of_fresh {α : Type} {measure : Strand → Multiset α} {spawned : List Strand}
    (fresh : ∀ strand ∈ spawned, measure strand = 0) : (spawned.map measure).sum = 0 := by
  apply List.sum_eq_zero
  intro calls member
  obtain ⟨strand, new, rfl⟩ := List.mem_map.mp member
  exact fresh strand new

def Adds {α : Type} (measure : Strand → Multiset α) (before after : Provider Bench) : Prop :=
  ∃ spawned, after.strands = before.strands ++ spawned ∧ ∀ strand ∈ spawned, measure strand = 0

section Adds

variable {α : Type} {measure : Strand → Multiset α}

omit [AdapterBench Bench]

theorem Adds.place (adds : Adds measure before after)
    (place : before.strands = front ++ strand :: back) :
    ∃ more, after.strands = front ++ strand :: more ∧
      (more.map measure).sum = (back.map measure).sum := by
  obtain ⟨spawned, same, fresh⟩ := adds
  refine ⟨back ++ spawned, by rw [same, place, List.append_assoc, List.cons_append], ?_⟩
  rw [List.map_append, List.sum_append, sum_of_fresh fresh, add_zero]

theorem Adds.sum (adds : Adds measure before after) :
    (after.strands.map measure).sum = (before.strands.map measure).sum := by
  obtain ⟨spawned, same, fresh⟩ := adds
  rw [same, List.map_append, List.sum_append, sum_of_fresh fresh, add_zero]

theorem Adds.sum_put (adds : Adds measure before middle) (distinct : middle.Distinct)
    (member : strand ∈ before.strands) (same : next.id = strand.id) :
    ∃ others, (before.strands.map measure).sum = measure strand + others ∧
      ((middle.put next).strands.map measure).sum = measure next + others := by
  obtain ⟨front, back, place⟩ := List.append_of_mem member
  obtain ⟨more, moved, sum⟩ := adds.place place
  refine ⟨_, sum_of_place measure place, ?_⟩
  rw [sum_of_place measure (put_strands distinct moved same), sum]

theorem Adds.sum_remove (adds : Adds measure before middle) (distinct : middle.Distinct)
    (member : strand ∈ before.strands) :
    ∃ others, (before.strands.map measure).sum = measure strand + others ∧
      ((middle.remove strand.id).strands.map measure).sum = others := by
  obtain ⟨front, back, place⟩ := List.append_of_mem member
  obtain ⟨more, moved, sum⟩ := adds.place place
  refine ⟨_, sum_of_place measure place, ?_⟩
  rw [remove_strands distinct moved, List.map_append, List.sum_append, sum]

theorem Distinct.put (distinct : provider.Distinct) (member : strand ∈ provider.strands)
    (same : next.id = strand.id) : (provider.put next).Distinct := by
  obtain ⟨front, back, place⟩ := List.append_of_mem member
  have replaced := put_strands distinct place same
  constructor
  · have nodup := distinct.nodup
    rw [place] at nodup
    rw [replaced]
    simpa [same] using nodup
  · intro other within
    rcases mem_put within with stood | rfl
    · exact distinct.below other stood
    · rw [same]
      exact distinct.below strand member

theorem Distinct.remove (distinct : provider.Distinct) (id : StrandId) :
    (provider.remove id).Distinct where
  nodup := distinct.nodup.sublist (List.filter_sublist.map Strand.id)
  below other within := distinct.below other (List.mem_filter.mp within).1

end Adds

theorem Acts.mem (acts : Acts evolves before taken after left) (member : strand ∈ before.strands) :
    strand ∈ after.strands := by
  obtain ⟨spawned, same, _⟩ := acts.strands
  rw [same]
  exact List.mem_append_left spawned member

theorem Acts.simulates_put (distinct : before.Distinct) (member : strand ∈ before.strands)
    (acts : Acts evolves before strand.onConnection middle next.onConnection)
    (same : next.id = strand.id) : Simulates evolves before (middle.put next) := by
  have kept := acts.distinct distinct
  have adds : Adds Strand.onConnection before middle := acts.strands
  refine ⟨kept.put (acts.mem member) same, ?_⟩
  obtain ⟨others, earlier, later⟩ := adds.sum_put kept member same
  rw [run, run, onConnection, onConnection, earlier, later]
  exact acts.steps others

theorem Acts.simulates_remove (distinct : before.Distinct) (member : strand ∈ before.strands)
    (acts : Acts evolves before strand.onConnection middle 0) :
    Simulates evolves before (middle.remove strand.id) := by
  have kept := acts.distinct distinct
  have adds : Adds Strand.onConnection before middle := acts.strands
  refine ⟨kept.remove strand.id, ?_⟩
  obtain ⟨others, earlier, later⟩ := adds.sum_remove kept member
  have steps := acts.steps others
  rw [zero_add] at steps
  rw [run, run, onConnection, onConnection, earlier, later]
  exact steps

theorem Acts.simulates (distinct : before.Distinct) (acts : Acts evolves before 0 after 0) :
    Simulates evolves before after := by
  refine ⟨acts.distinct distinct, ?_⟩
  have adds : Adds Strand.onConnection before after := acts.strands
  have steps := acts.steps before.onConnection
  rw [zero_add] at steps
  rw [run, run, onConnection, onConnection, adds.sum]
  exact steps

end Strands

theorem Acts.proceeds {strand next : Strand} {result : Provider Bench × Step}
    (distinct : before.Distinct) (member : strand ∈ before.strands)
    (does : Does evolves before strand.onConnection result) (same : next.id = strand.id) :
    Simulates evolves before (result.1.proceed next result.2) := by
  obtain ⟨middle, step⟩ := result
  cases step with
  | waiting call milliseconds =>
      exact Acts.simulates_put distinct member does same
  | finished reply =>
      have removed := Acts.simulates_remove distinct member does
      rw [← same] at removed
      have put : Simulates evolves before (middle.put { next with call := none }) :=
        Acts.simulates_put distinct member does same
      simp only [proceed]
      split
      next => exact ⟨⟨removed.distinct.nodup, removed.distinct.below⟩, removed.steps⟩
      next => exact removed
      next => exact put

theorem listenerStep_simulates {strand : Strand} (distinct : provider.Distinct)
    (member : strand ∈ provider.strands) (idle : strand.onConnection = 0)
    (subscription : SubscriptionId) :
    Simulates evolves provider (provider.listenerStep strand subscription) := by
  have ended : Simulates evolves provider
      ((provider.setHost (provider.host.cancel subscription)).remove strand.id) :=
    Acts.simulates_remove distinct member (idle ▸ .aside rfl rfl rfl)
  simp only [listenerStep]
  split
  next => exact ended
  next =>
    split
    next => exact ended
    next => exact Acts.simulates distinct .refl
    next host event _ =>
      have received : Acts evolves provider strand.onConnection (provider.setHost host) 0 :=
        idle ▸ .aside rfl rfl rfl
      exact Acts.proceeds distinct member (received.trans (plugEvent_does event)) rfl

theorem watcherStep_simulates {strand : Strand} (distinct : provider.Distinct)
    (member : strand ∈ provider.strands) (idle : strand.onConnection = 0) (store : Nat)
    (seen : Option Nat) : Simulates evolves provider (provider.watcherStep strand store seen) := by
  have ended : Simulates evolves provider (provider.remove strand.id) :=
    Acts.simulates_remove distinct member (idle ▸ .refl)
  simp only [watcherStep]
  split
  next => exact ended
  next =>
    split
    next => exact ended
    next =>
      split
      next =>
        split
        next => exact ended
        next => exact Acts.simulates distinct .refl
      next => exact Acts.proceeds distinct member (idle ▸ selectAccount_does _) rfl

theorem advance_simulates {strand : Strand} (distinct : provider.Distinct)
    (member : strand ∈ provider.strands) :
    Simulates evolves provider (provider.advance strand) := by
  simp only [advance]
  split
  next call due waiting =>
    have taken : strand.onConnection = call.onConnection := by
      rw [Strand.onConnection, waiting]
      rfl
    exact Acts.proceeds distinct member (taken ▸ resume_does call) rfl
  next waiting =>
    have idle : strand.onConnection = 0 := by
      rw [Strand.onConnection, waiting]
      rfl
    have ended : Simulates evolves provider (provider.remove strand.id) :=
      Acts.simulates_remove distinct member (idle ▸ .refl)
    split
    next request _ => exact Acts.proceeds distinct member (idle ▸ begin_does request) rfl
    next =>
      split
      next => exact Acts.simulates_remove distinct member (idle ▸ .reacted .closeInbox rfl)
      next => exact Acts.simulates distinct (.reacted .pump rfl)
    next =>
      split
      next => exact Acts.simulates distinct (.aside rfl rfl rfl)
      next => exact Acts.simulates_remove distinct member (idle ▸ .aside rfl rfl rfl)
    next subscription _ => exact listenerStep_simulates distinct member idle subscription
    next epoch trigger _ _ =>
      split
      next => exact ended
      next => exact Acts.proceeds distinct member (idle ▸ evaluate_does epoch trigger) rfl
    next store seen _ => exact watcherStep_simulates distinct member idle store seen

/-! Runs. -/

theorem Simulates.trans (first : Simulates evolves before middle)
    (rest : middle.Distinct → Simulates evolves middle after) : Simulates evolves before after :=
  ⟨(rest first.distinct).distinct, first.steps.trans (rest first.distinct).steps⟩

theorem Transition.simulates (transition : Transition evolves before after)
    (distinct : before.Distinct) : Simulates evolves before after := by
  cases transition with
  | request request => exact Acts.simulates distinct (.spawned _)
  | advance strand member _ =>
      exact (advance_simulates distinct member).trans fun kept =>
        Acts.simulates kept (letGo_edits.acts (by decide))
  | wait later _ => exact Acts.simulates distinct (.aside rfl rfl rfl)
  | react event goesOn => exact Acts.simulates distinct (.reacted event goesOn)
  | onBench change evolved =>
      refine Acts.simulates distinct (.through fun others => .single ?_)
      have same : (before.connection.onBench change).cancelled = before.isCancelled :=
        Connection.deliver_cancelled _ _
      rw [same]
      exact .onBench ⟨before.connection, 0 + others, before.isCancelled⟩ change evolved
  | onHost host => exact Acts.simulates distinct (.aside rfl rfl rfl)
  | subscribe wallet => exact Acts.simulates distinct ((subscribe_edits wallet).acts (by decide))
  | resetPermission => exact Acts.simulates distinct (.aside rfl rfl rfl)
  | startPump => exact Acts.simulates distinct startPump_acts
  | stopListening => exact Acts.simulates distinct (.aside rfl rfl rfl)
  | watchAccounts account =>
      have opened : Acts evolves before 0
          { before with stores := before.stores ++ [{ published := { value := account } }] } 0 :=
        .aside rfl rfl rfl
      exact Acts.simulates distinct (opened.trans (.spawned _))
  | publishAccount store account =>
      exact Acts.simulates distinct (publishAccount_acts store account)
  | closeStore store => exact Acts.simulates distinct (.aside rfl rfl rfl)
  | cancel => exact Acts.simulates distinct .cancelled
  | drop => exact Acts.simulates distinct drop_acts

theorem Distinct.simulates (distinct : before.Distinct)
    (transitions : Relation.ReflTransGen (Transition evolves) before after) :
    Simulates evolves before after := by
  induction transitions with
  | refl => exact ⟨distinct, .refl⟩
  | tail _ transition ih => exact ih.trans transition.simulates

/-- What a new provider does is a run of its connection from the start. -/
theorem IsNew.simulates {first : Provider Bench} (new : first.IsNew)
    (transitions : Relation.ReflTransGen (Transition evolves) first provider) :
    provider.Distinct ∧ Run.Steps evolves (.start first.connection.bench) provider.run := by
  have distinct : first.Distinct := ⟨by simp [new.strands], by simp [new.strands]⟩
  have simulated := distinct.simulates transitions
  have start : first.run = .start first.connection.bench := by
    simp only [Provider.run, onConnection, new.strands, List.map_nil, List.sum_nil, isCancelled,
      Run.start]
    rw [new.connection]
  rw [← start]
  exact ⟨simulated.distinct, simulated.steps⟩

theorem Reachable.run (reachable : provider.Reachable evolves) :
    provider.Distinct ∧ provider.run.Reachable evolves := by
  obtain ⟨first, new, transitions⟩ := reachable
  obtain ⟨distinct, steps⟩ := new.simulates transitions
  exact ⟨distinct, first.connection.bench, steps⟩

end Provider

end SignerLink
