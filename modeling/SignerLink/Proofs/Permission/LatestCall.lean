import Mathlib.Data.Multiset.MapFold
import Mathlib.Data.Multiset.UnionInter
import Mathlib.Logic.Relation
import SignerLink.PermissionGate
/-!
The permission call that began last wins. Calls finish in any order, or never; what an earlier one
has learned is thrown away once a later one has begun.
-/

namespace SignerLink

/-- What a permission is learned from, with what the host or the user will answer. -/
inductive PermissionQuery where
  | check (answer : Permission)
  | request (granted : Bool)
  | reset
  deriving DecidableEq, Repr

def PermissionQuery.learns : PermissionQuery → Permission
  | .check answer => answer
  | .request granted => .ofGrant granted
  | .reset => .unknown

namespace PermissionGate

def accepts (gate : PermissionGate) (call : PermissionCall) : Bool :=
  !gate.cancelled && gate.latest == call.number

@[simp] theorem commit_latest (gate : PermissionGate) (call : PermissionCall) :
    (gate.commit call).latest = gate.latest := by
  simp only [commit]; split <;> rfl

@[simp] theorem commit_cancelled (gate : PermissionGate) (call : PermissionCall) :
    (gate.commit call).cancelled = gate.cancelled := by
  simp only [commit]; split <;> rfl

@[simp] theorem reset_latest (gate : PermissionGate) : gate.reset.latest = gate.latest + 1 := by
  simp [reset, begin]

@[simp] theorem reset_cancelled (gate : PermissionGate) :
    gate.reset.cancelled = gate.cancelled := by
  simp [reset, begin]

theorem accepts_iff {gate : PermissionGate} {call : PermissionCall} :
    gate.accepts call = true ↔ gate.cancelled = false ∧ gate.latest = call.number := by
  simp [accepts]

theorem commit_of_refused {gate : PermissionGate} {call : PermissionCall}
    (refused : gate.accepts call = false) : gate.commit call = gate := by
  simp only [accepts, Bool.and_eq_false_iff, Bool.not_eq_false', beq_eq_false_iff_ne] at refused
  rcases refused with ended | overtaken
  · simp [commit, ended]
  · simp [commit, overtaken]

theorem commit_state_of_accepted {gate : PermissionGate} {call : PermissionCall}
    (accepted : gate.accepts call = true) : (gate.commit call).state = call.permission := by
  obtain ⟨live, current⟩ := accepts_iff.mp accepted
  by_cases same : gate.state = call.permission
  · simp [commit, same]
  · rw [commit, if_neg (by simp [live, current, same])]
    rfl

end PermissionGate

/-- A call with what it was made for. -/
structure Asking where
  query : PermissionQuery
  call : PermissionCall
  deriving DecidableEq, Repr

/-- A gate with the calls that have begun, those of them that wait, and those whose results were
written; the first and the last in the order in which that happened. -/
structure PermissionRun where
  gate : PermissionGate
  begun : List Asking := []
  waiting : Multiset Asking := 0
  written : List Asking := []

namespace PermissionRun

def start (gate : PermissionGate) : PermissionRun := { gate := gate }

def asking (run : PermissionRun) (query : PermissionQuery) : Asking :=
  ⟨query, (run.gate.begin query.learns).2⟩

def begin (run : PermissionRun) (query : PermissionQuery) : PermissionRun :=
  { run with
    gate := (run.gate.begin query.learns).1
    begun := run.begun ++ [run.asking query]
    waiting := run.asking query ::ₘ run.waiting }

def finish (run : PermissionRun) (asking : Asking) : PermissionRun :=
  { run with
    gate := run.gate.commit asking.call
    waiting := run.waiting.erase asking
    written := if run.gate.accepts asking.call then run.written ++ [asking] else run.written }

def cancel (run : PermissionRun) : PermissionRun := { run with gate := run.gate.cancel }

inductive Step : PermissionRun → PermissionRun → Prop where
  | begin (run : PermissionRun) (query : PermissionQuery) : Step run (run.begin query)
  | finish (run : PermissionRun) (asking : Asking) :
      asking ∈ run.waiting → Step run (run.finish asking)
  | cancel (run : PermissionRun) : Step run run.cancel

abbrev Steps : PermissionRun → PermissionRun → Prop := Relation.ReflTransGen Step

theorem reset_steps (run : PermissionRun) :
    Steps run ((run.begin .reset).finish (run.asking .reset)) ∧
      ((run.begin .reset).finish (run.asking .reset)).gate = run.gate.reset :=
  ⟨.tail (.single (.begin run .reset)) (.finish _ _ (Multiset.mem_cons_self _ _)), rfl⟩

/-! What every run keeps. -/

structure Sound (first : PermissionGate) (run : PermissionRun) : Prop where
  numbered : run.begun.Pairwise fun earlier later => earlier.call.number < later.call.number
  bounded : ∀ asking ∈ run.begun, asking.call.number ≤ run.gate.latest
  newest : ∀ last, run.begun.getLast? = some last → last.call.number = run.gate.latest
  learned : ∀ asking ∈ run.begun, asking.call.permission = asking.query.learns
  waits : ∀ asking ∈ run.waiting, asking ∈ run.begun ∧ asking ∉ run.written
  once : run.waiting.Nodup
  ordered : run.written.Sublist run.begun
  shown : run.gate.state = run.written.getLast?.elim first.state fun last => last.query.learns
  settled : run.gate.cancelled = false → ∀ last, run.begun.getLast? = some last →
    last ∉ run.waiting → run.written.getLast? = some last

namespace Sound

variable {first : PermissionGate} {run : PermissionRun} {asking : Asking}

theorem start (first : PermissionGate) : Sound first (.start first) := by
  constructor <;> simp [PermissionRun.start]

theorem ends_in (sound : Sound first run) (member : asking ∈ run.begun)
    (current : run.gate.latest = asking.call.number) :
    ∃ earlier, run.begun = earlier ++ [asking] := by
  obtain ⟨earlier, later, place⟩ := List.append_of_mem member
  cases later with
  | nil => exact ⟨earlier, place⟩
  | cons next rest =>
      have numbered := sound.numbered
      rw [place, List.pairwise_append, List.pairwise_cons] at numbered
      have above := numbered.2.1.1 next List.mem_cons_self
      have below := sound.bounded next (by simp [place])
      omega

theorem begin (sound : Sound first run) (query : PermissionQuery) :
    Sound first (run.begin query) := by
  have next : (run.asking query).call.number = run.gate.latest + 1 := rfl
  have fresh : run.asking query ∉ run.begun := by
    intro member
    have bound := sound.bounded _ member
    omega
  constructor
  case numbered =>
    refine List.pairwise_append.mpr ⟨sound.numbered, List.pairwise_singleton _ _, ?_⟩
    intro earlier member later new
    rw [List.mem_singleton.mp new, next]
    exact Nat.lt_succ_of_le (sound.bounded earlier member)
  case bounded =>
    intro asking member
    have latest : (run.begin query).gate.latest = run.gate.latest + 1 := rfl
    rcases List.mem_append.mp member with old | new
    · exact Nat.le_succ_of_le (sound.bounded asking old)
    · rw [List.mem_singleton.mp new]
      exact Nat.le_refl _
  case newest =>
    intro last ends
    rw [PermissionRun.begin, List.getLast?_concat] at ends
    cases ends
    rfl
  case learned =>
    intro asking member
    rcases List.mem_append.mp member with old | new
    · exact sound.learned asking old
    · rw [List.mem_singleton.mp new]
      rfl
  case waits =>
    intro asking member
    rcases Multiset.mem_cons.mp member with rfl | old
    · exact ⟨List.mem_append_right _ (List.mem_singleton_self _),
        fun written => fresh (sound.ordered.subset written)⟩
    · obtain ⟨began, unwritten⟩ := sound.waits asking old
      exact ⟨List.mem_append_left _ began, unwritten⟩
  case once =>
    exact Multiset.nodup_cons.mpr ⟨fun old => fresh (sound.waits _ old).1, sound.once⟩
  case ordered => exact sound.ordered.trans (List.sublist_append_left _ _)
  case shown => exact sound.shown
  case settled =>
    intro _ last ends done
    rw [PermissionRun.begin, List.getLast?_concat] at ends
    cases ends
    exact absurd (Multiset.mem_cons_self _ _) done

theorem of_finish (sound : Sound first run) {written : List Asking}
    (finished : (run.finish asking).written = written)
    (unwritten : ∀ other ∈ run.waiting.erase asking, other ∉ written)
    (ordered : written.Sublist run.begun)
    (shown : (run.gate.commit asking.call).state =
      written.getLast?.elim first.state fun last => last.query.learns)
    (settled : run.gate.cancelled = false → ∀ last, run.begun.getLast? = some last →
      last ∉ run.waiting.erase asking → written.getLast? = some last) :
    Sound first (run.finish asking) where
  numbered := sound.numbered
  bounded other member := (sound.bounded other member).trans_eq (run.gate.commit_latest _).symm
  newest last ends := (sound.newest last ends).trans (run.gate.commit_latest _).symm
  learned := sound.learned
  waits other member :=
    ⟨(sound.waits other (Multiset.mem_of_mem_erase member)).1, finished ▸ unwritten other member⟩
  once := sound.once.erase asking
  ordered := finished ▸ ordered
  shown := finished ▸ shown
  settled live last ends done :=
    finished ▸ settled ((run.gate.commit_cancelled _).symm.trans live) last ends done

theorem finish_refused (sound : Sound first run)
    (refused : run.gate.accepts asking.call = false) : Sound first (run.finish asking) := by
  have finished : (run.finish asking).written = run.written := by
    simp only [finish, refused, Bool.false_eq_true, if_false]
  refine sound.of_finish finished ?_ sound.ordered ?_ ?_
  · exact fun other still => (sound.waits other (Multiset.mem_of_mem_erase still)).2
  · rw [PermissionGate.commit_of_refused refused]
    exact sound.shown
  · intro live last ends done
    refine sound.settled live last ends ?_
    intro waits
    by_cases same : last = asking
    · -- The call that began last is never refused while the gate is open.
      have current := sound.newest last ends
      rw [same] at current
      have accepted := PermissionGate.accepts_iff.mpr ⟨live, current.symm⟩
      rw [refused] at accepted
      cases accepted
    · exact done ((Multiset.mem_erase_of_ne same).mpr waits)

theorem finish_accepted (sound : Sound first run) (member : asking ∈ run.waiting)
    (accepted : run.gate.accepts asking.call = true) : Sound first (run.finish asking) := by
  obtain ⟨began, unwritten⟩ := sound.waits asking member
  obtain ⟨earlier, place⟩ := sound.ends_in began (PermissionGate.accepts_iff.mp accepted).2
  have finished : (run.finish asking).written = run.written ++ [asking] := by
    simp only [finish, accepted, if_true]
  refine sound.of_finish finished ?_ ?_ ?_ ?_
  · intro other still written
    rcases List.mem_append.mp written with old | new
    · exact (sound.waits other (Multiset.mem_of_mem_erase still)).2 old
    · rw [List.mem_singleton.mp new] at still
      exact Multiset.Nodup.notMem_erase sound.once still
  · -- What was written before began before: it stands among the calls that are not the last.
    have ordered := sound.ordered
    rw [place, List.sublist_append_iff] at ordered
    obtain ⟨front, back, same, before, rest⟩ := ordered
    rcases List.sublist_singleton.mp rest with none | last
    · rw [same, none, List.append_nil, place]
      exact before.append (List.Sublist.refl _)
    · rw [same, last] at unwritten
      exact absurd (List.mem_append_right _ (List.mem_singleton_self _)) unwritten
  · rw [PermissionGate.commit_state_of_accepted accepted, List.getLast?_concat]
    exact sound.learned asking began
  · intro _ last ends _
    rw [place, List.getLast?_concat] at ends
    rw [List.getLast?_concat, ends]

theorem finish (sound : Sound first run) (member : asking ∈ run.waiting) :
    Sound first (run.finish asking) := by
  cases verdict : run.gate.accepts asking.call with
  | false => exact sound.finish_refused verdict
  | true => exact sound.finish_accepted member verdict

theorem cancel (sound : Sound first run) : Sound first run.cancel where
  numbered := sound.numbered
  bounded := sound.bounded
  newest := sound.newest
  learned := sound.learned
  waits := sound.waits
  once := sound.once
  ordered := sound.ordered
  shown := sound.shown
  settled live := by cases live

end Sound

theorem Step.sound {first : PermissionGate} {before after : PermissionRun}
    (step : Step before after) (sound : Sound first before) : Sound first after := by
  cases step with
  | begin query => exact sound.begin query
  | finish asking member => exact sound.finish member
  | cancel => exact sound.cancel

theorem Steps.sound {first : PermissionGate} {run : PermissionRun}
    (steps : Steps (.start first) run) : Sound first run := by
  induction steps with
  | refl => exact .start first
  | tail _ step ih => exact step.sound ih

/-- Results are written in the order in which their calls began, each once at most. What is shown
is always the result that was written last; and unless the gate is closed, it is the result of the
call that began last, once this one has finished. -/
theorem latest_call_wins {first : PermissionGate} {run : PermissionRun}
    (steps : Steps (.start first) run) :
    run.begun.Nodup ∧ run.written.Sublist run.begun ∧
      run.gate.state = (run.written.getLast?.elim first.state fun last => last.query.learns) ∧
      (run.gate.cancelled = false → ∀ last, run.begun.getLast? = some last →
        last ∉ run.waiting → run.gate.state = last.query.learns) := by
  have sound := steps.sound
  refine ⟨?_, sound.ordered, sound.shown, ?_⟩
  · refine sound.numbered.imp ?_
    intro earlier later below same
    rw [same] at below
    exact Nat.lt_irrefl _ below
  · intro live last ends done
    rw [sound.shown, sound.settled live last ends done]
    rfl

def overtaken : PermissionRun :=
  ((((start {}).begin (.check .granted)).begin (.request false)).finish
    ⟨.request false, ⟨2, .denied⟩⟩).finish ⟨.check .granted, ⟨1, .granted⟩⟩

theorem latest_call_wins_overtaken :
    overtaken.begun = [⟨.check .granted, ⟨1, .granted⟩⟩, ⟨.request false, ⟨2, .denied⟩⟩] ∧
      overtaken.written = [⟨.request false, ⟨2, .denied⟩⟩] ∧
      overtaken.gate.state = .denied := by
  have begun : Steps (start {}) (((start {}).begin (.check .granted)).begin (.request false)) :=
    .tail (.single (.begin _ _)) (.begin _ _)
  have finished : Steps (start {}) overtaken :=
    .tail (begun.tail (.finish _ _ (by decide))) (.finish _ _ (by decide))
  obtain ⟨_, _, _, settled⟩ := latest_call_wins finished
  exact ⟨rfl, rfl, settled rfl ⟨.request false, ⟨2, .denied⟩⟩ rfl (by decide)⟩

end PermissionRun

end SignerLink
