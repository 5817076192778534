import Mathlib.Data.List.Induction
import Mathlib.Data.List.Nodup
import Mathlib.Data.List.ReduceOption
import SignerLink.Proofs.Transport.Forwarding
/-!
The devices paired with a host. One list serves both channels, yet what it holds for a channel is
an ordered set that only the channel's own history decides: a device stands in it from the pairing
that brought it in until it is unpaired, and pairing it again leaves it in its place.
-/

namespace SignerLink

/-! The history of one channel's pairings. -/

inductive Pairing where
  | made (device : Device)
  | ended (device : Device)
  deriving DecidableEq, Repr

namespace Pairing

variable {pairings : List Pairing} {last : Pairing} {device other : Device} {moment : Nat}

def arrange (devices : List Device) : Pairing → List Device
  | .made device => if device ∈ devices then devices else devices ++ [device]
  | .ended device => devices.filter (· ≠ device)

def arranged (pairings : List Pairing) : List Device := pairings.foldl arrange []

def IsPaired (pairings : List Pairing) (device : Device) : Prop :=
  ∃ earlier later, pairings = earlier ++ .made device :: later ∧ .ended device ∉ later

/-- The moment at which the device was first paired since it was last absent. -/
def EnteredAt (pairings : List Pairing) (device : Device) (moment : Nat) : Prop :=
  ∃ earlier later, pairings = earlier ++ .made device :: later ∧ .ended device ∉ later ∧
    ¬IsPaired earlier device ∧ earlier.length = moment

def EnteredBefore (pairings : List Pairing) (first second : Device) : Prop :=
  ∃ early late, EnteredAt pairings first early ∧ EnteredAt pairings second late ∧ early < late

theorem split_concat {α : Type} {earlier later init : List α} {item last : α} :
    init ++ [last] = earlier ++ item :: later ↔
      (later = [] ∧ earlier = init ∧ item = last) ∨
        ∃ rest, later = rest ++ [last] ∧ init = earlier ++ item :: rest := by
  constructor
  · intro splits
    rcases List.eq_nil_or_concat later with rfl | ⟨rest, final, rfl⟩
    · obtain ⟨same, ends⟩ := List.append_inj' splits rfl
      cases ends
      exact .inl ⟨rfl, same.symm, rfl⟩
    · rw [List.concat_eq_append, ← List.cons_append, ← List.append_assoc] at splits
      obtain ⟨same, ends⟩ := List.append_inj' splits rfl
      cases ends
      exact .inr ⟨rest, List.concat_eq_append, same⟩
  · rintro (⟨rfl, rfl, rfl⟩ | ⟨rest, rfl, rfl⟩)
    · rfl
    · rw [List.append_assoc, List.cons_append]

theorem isPaired_nil : ¬IsPaired [] device := by
  rintro ⟨earlier, later, splits, _⟩
  simp at splits

theorem isPaired_concat :
    IsPaired (pairings ++ [last]) device ↔
      last = .made device ∨ last ≠ .ended device ∧ IsPaired pairings device := by
  constructor
  · rintro ⟨earlier, later, splits, kept⟩
    rcases split_concat.mp splits with ⟨_, _, made⟩ | ⟨rest, rfl, within⟩
    · exact .inl made.symm
    · simp only [List.mem_append, List.mem_singleton, not_or] at kept
      exact .inr ⟨Ne.symm kept.2, earlier, rest, within, kept.1⟩
  · rintro (rfl | ⟨spared, earlier, later, rfl, kept⟩)
    · exact ⟨pairings, [], rfl, List.not_mem_nil⟩
    · refine ⟨earlier, later ++ [last], by rw [List.append_assoc, List.cons_append], ?_⟩
      simp only [List.mem_append, List.mem_singleton, not_or]
      exact ⟨kept, Ne.symm spared⟩

theorem EnteredAt.lt_length (entered : EnteredAt pairings device moment) :
    moment < pairings.length := by
  obtain ⟨earlier, later, rfl, _, _, rfl⟩ := entered
  simp

theorem EnteredAt.concat (entered : EnteredAt pairings device moment)
    (spared : last ≠ .ended device) : EnteredAt (pairings ++ [last]) device moment := by
  obtain ⟨earlier, later, rfl, kept, absent, length⟩ := entered
  refine ⟨earlier, later ++ [last], by rw [List.append_assoc, List.cons_append], ?_, absent, length⟩
  simp only [List.mem_append, List.mem_singleton, not_or]
  exact ⟨kept, Ne.symm spared⟩

theorem enteredAt_made (absent : ¬IsPaired pairings device) :
    EnteredAt (pairings ++ [.made device]) device pairings.length :=
  ⟨pairings, [], rfl, List.not_mem_nil, absent, rfl⟩

theorem EnteredAt.not_lt {early late : Nat} (entered : EnteredAt pairings device early)
    (again : EnteredAt pairings device late) : ¬early < late := by
  intro lt
  obtain ⟨before, after, rfl, kept, _, rfl⟩ := entered
  obtain ⟨earlier, later, splits, _, absent, rfl⟩ := again
  rcases List.append_eq_append_iff.mp splits with ⟨between, rfl, follows⟩ | ⟨between, rfl, _⟩
  · cases between with
    | nil => simp at lt
    | cons entering rest =>
        -- Up to its second entry the device would have stayed paired.
        rw [List.cons_append, List.cons.injEq] at follows
        obtain ⟨rfl, rfl⟩ := follows
        exact absent ⟨before, rest, rfl, fun ended => kept (List.mem_append_left _ ended)⟩
  · simp only [List.length_append] at lt
    omega

/-- A paired device entered at one moment, and at no other. -/
theorem existsUnique_enteredAt (paired : IsPaired pairings device) :
    ∃! moment, EnteredAt pairings device moment := by
  have enters : ∃ moment, EnteredAt pairings device moment := by
    induction pairings using List.reverseRecOn with
    | nil => exact absurd paired isPaired_nil
    | append_singleton pairings last ih =>
        by_cases already : IsPaired pairings device
        · obtain ⟨moment, entered⟩ := ih already
          refine ⟨moment, entered.concat ?_⟩
          rintro rfl
          simp [isPaired_concat] at paired
        · rcases isPaired_concat.mp paired with rfl | ⟨_, within⟩
          · exact ⟨pairings.length, enteredAt_made already⟩
          · exact absurd within already
  obtain ⟨moment, entered⟩ := enters
  refine ⟨moment, entered, fun again enteredAgain => ?_⟩
  have := entered.not_lt enteredAgain
  have := enteredAgain.not_lt entered
  omega

theorem EnteredBefore.concat (before : EnteredBefore pairings device other)
    (first : last ≠ .ended device) (second : last ≠ .ended other) :
    EnteredBefore (pairings ++ [last]) device other := by
  obtain ⟨early, late, entered, after, lt⟩ := before
  exact ⟨early, late, entered.concat first, after.concat second, lt⟩

theorem arranged_concat : arranged (pairings ++ [last]) = arrange (arranged pairings) last := by
  rw [arranged, List.foldl_append]
  rfl

theorem mem_arrange {devices : List Device} :
    device ∈ arrange devices last ↔
      last = .made device ∨ last ≠ .ended device ∧ device ∈ devices := by
  cases last with
  | made entering =>
      have spared : Pairing.made entering ≠ .ended device := nofun
      rw [arrange, made.injEq, eq_comm]
      by_cases known : entering ∈ devices
      · rw [if_pos known]
        constructor
        · exact fun stands => .inr ⟨spared, stands⟩
        · rintro (rfl | ⟨_, stands⟩)
          · exact known
          · exact stands
      · rw [if_neg known, List.mem_append, List.mem_singleton]
        tauto
  | ended leaving =>
      simp only [arrange, List.mem_filter, decide_eq_true_eq, ne_eq, ended.injEq, reduceCtorEq,
        false_or]
      rw [and_comm, eq_comm]

theorem mem_arranged : device ∈ arranged pairings ↔ IsPaired pairings device := by
  induction pairings using List.reverseRecOn with
  | nil => exact iff_of_false List.not_mem_nil isPaired_nil
  | append_singleton pairings last ih => rw [arranged_concat, mem_arrange, isPaired_concat, ih]

theorem arranged_nodup (pairings : List Pairing) : (arranged pairings).Nodup := by
  induction pairings using List.reverseRecOn with
  | nil => exact List.nodup_nil
  | append_singleton pairings last ih =>
      rw [arranged_concat]
      cases last with
      | made entering =>
          by_cases known : entering ∈ arranged pairings
          · rwa [arrange, if_pos known]
          · rw [arrange, if_neg known]
            exact List.concat_eq_append ▸ ih.concat known
      | ended leaving => exact ih.filter _

theorem arranged_pairwise (pairings : List Pairing) :
    (arranged pairings).Pairwise (EnteredBefore pairings) := by
  induction pairings using List.reverseRecOn with
  | nil => exact List.Pairwise.nil
  | append_singleton pairings last ih =>
      rw [arranged_concat]
      cases last with
      | made entering =>
          have spared (device : Device) : Pairing.made entering ≠ .ended device := nofun
          have kept : (arranged pairings).Pairwise (EnteredBefore (pairings ++ [.made entering])) :=
            ih.imp fun before => before.concat (spared _) (spared _)
          by_cases known : entering ∈ arranged pairings
          · rwa [arrange, if_pos known]
          · rw [arrange, if_neg known, List.pairwise_append]
            refine ⟨kept, List.pairwise_singleton _ _, fun device stands other new => ?_⟩
            obtain rfl := List.mem_singleton.mp new
            obtain ⟨moment, entered, _⟩ := existsUnique_enteredAt (mem_arranged.mp stands)
            exact ⟨moment, pairings.length, entered.concat (spared _),
              enteredAt_made (mem_arranged.not.mp known), entered.lt_length⟩
      | ended leaving =>
          -- Entries are about the whole history; those of the devices that remain are still there.
          have remains : (arrange (arranged pairings) (.ended leaving)).Pairwise _ := ih.filter _
          refine remains.imp_of_mem fun first second before => ?_
          exact before.concat ((mem_arrange.mp first).resolve_left nofun).1
            ((mem_arrange.mp second).resolve_left nofun).1

end Pairing

/-! What the actions of a host are to a channel. -/

namespace HostAction

/-- A selection is delivered on the channel whose chooser it was made in. -/
def pairing? (channel : Channel) : HostAction → Option Pairing
  | .pair on device | .plugIn on device | .deliver (some (on, device)) =>
      if on = channel then some (.made device) else none
  | .unpair on device | .unplug on device => if on = channel then some (.ended device) else none
  | _ => none

def channel? : HostAction → Option Channel
  | .setAvailable on _ | .pair on _ | .unpair on _ | .plugIn on _ | .unplug on _ | .emit on _
  | .enumerate on | .choose on | .deliver (some (on, _)) => some on
  | .queueResponse _ | .failEnumeration _ | .setLatency _ | .deliver none | .subscribe _
  | .cancel _ | .forward _ | .receive _ => none

/-- What an action does to the outlook of a channel: whether it is available, how enumerations
fail, and its devices. -/
def revise (channel : Channel) (outlook : Bool × Option String × List Device) :
    HostAction → Bool × Option String × List Device
  | .setAvailable on available => (if on = channel then available else outlook.1, outlook.2)
  | .failEnumeration message => (outlook.1, message, outlook.2.2)
  | action =>
      (outlook.1, outlook.2.1,
        (action.pairing? channel).elim outlook.2.2 (Pairing.arrange outlook.2.2))

def queued? : HostAction → Option ChooserResponse
  | .queueResponse response => some response
  | _ => none

theorem pairing?_apart {channel other : Channel} {action : HostAction}
    (about : action.channel? = some other) (apart : other ≠ channel) :
    action.pairing? channel = none := by
  cases action with
  | pair on _ | unpair on _ | plugIn on _ | unplug on _ =>
      cases about
      exact if_neg apart
  | deliver selection =>
      rcases selection with _ | ⟨on, device⟩
      · rfl
      · cases about
        exact if_neg apart
  | setAvailable _ _ | emit _ _ | queueResponse _ | failEnumeration _ | setLatency _
  | enumerate _ | choose _ | subscribe _ | cancel _ | forward _ | receive _ => rfl

theorem revise_apart {channel other : Channel} {action : HostAction}
    (about : action.channel? = some other) (apart : other ≠ channel)
    (outlook : Bool × Option String × List Device) : action.revise channel outlook = outlook := by
  have spares := pairing?_apart about apart
  unfold revise
  split
  next =>
    cases about
    rw [if_neg apart]
  next => cases about
  next => rw [spares, Option.elim_none]

end HostAction

namespace MemoryHost

variable {host : MemoryHost} {channel on : Channel} {device : Device}

def reached (actions : List HostAction) : MemoryHost := ({} : MemoryHost).after actions

def pairingsOn (channel : Channel) (actions : List HostAction) : List Pairing :=
  actions.filterMap (HostAction.pairing? channel)

def usedBy (host : MemoryHost) : HostAction → List (Option ChooserResponse)
  | .choose channel => if host.isAvailable channel then [host.responses.head?] else []
  | _ => []

/-- The response that each chooser uses up while the actions happen; none for a chooser that is
opened when no response is queued. -/
def usedUp (host : MemoryHost) : List HostAction → List (Option ChooserResponse)
  | [] => []
  | action :: later => host.usedBy action ++ (host.act action).usedUp later

def outlook (host : MemoryHost) (channel : Channel) : Bool × Option String × List Device :=
  (host.isAvailable channel, host.enumerationFailure, host.pairedOn channel)

theorem mem_pairedOn : device ∈ host.pairedOn channel ↔ (channel, device) ∈ host.paired := by
  simp [pairedOn]

theorem pair_pairedOn (on : Channel) (device : Device) :
    (host.pair on device).pairedOn channel =
      if on = channel then Pairing.arrange (host.pairedOn channel) (.made device)
      else host.pairedOn channel := by
  by_cases known : (on, device) ∈ host.paired
  · have stays : host.pair on device = host := by
      rw [pair, if_pos (List.contains_iff_mem.mpr known)]
    rw [stays]
    split
    next same =>
      subst same
      rw [Pairing.arrange, if_pos (mem_pairedOn.mpr known)]
    next => rfl
  · have joins : host.pair on device = { host with paired := host.paired ++ [(on, device)] } := by
      rw [pair, if_neg (mt List.contains_iff_mem.mp known)]
    rw [joins]
    split
    next same =>
      subst same
      rw [Pairing.arrange, if_neg (mt mem_pairedOn.mp known)]
      simp [pairedOn]
    next apart => simp [pairedOn, apart]

theorem unpair_pairedOn (on : Channel) (device : Device) :
    (host.unpair on device).pairedOn channel =
      if on = channel then Pairing.arrange (host.pairedOn channel) (.ended device)
      else host.pairedOn channel := by
  by_cases same : on = channel
  · subst same
    rw [if_pos rfl, Pairing.arrange, pairedOn, pairedOn, List.filter_map, List.filter_filter]
    simp only [unpair, List.filter_filter]
    refine congrArg (List.map Prod.snd) (List.filter_congr ?_)
    rintro ⟨other, paired⟩ _
    by_cases here : other = on <;> by_cases it : paired = device <;> simp [here, it]
  · rw [if_neg same, pairedOn, pairedOn]
    simp only [unpair, List.filter_filter]
    refine congrArg (List.map Prod.snd) (List.filter_congr ?_)
    rintro ⟨other, paired⟩ _
    by_cases here : other = channel
    · subst here
      simp [Ne.symm same]
    · simp [here]

theorem emit_pairedOn (on : Channel) (event : PlugEvent) :
    (host.emit on event).1.pairedOn channel = host.pairedOn channel := rfl

theorem pairedOn_congr {other : MemoryHost} (same : other.paired = host.paired) :
    other.pairedOn channel = host.pairedOn channel := by
  rw [pairedOn, same, pairedOn]

theorem act_pairedOn (channel : Channel) (action : HostAction) :
    (host.act action).pairedOn channel =
      (action.pairing? channel).elim (host.pairedOn channel)
        (Pairing.arrange (host.pairedOn channel)) := by
  cases action with
  | pair on device =>
      rw [act, pair_pairedOn, HostAction.pairing?]
      split <;> rfl
  | plugIn on device =>
      rw [act, plugIn, emit_pairedOn, pair_pairedOn, HostAction.pairing?]
      split <;> rfl
  | unpair on device =>
      rw [act, unpair_pairedOn, HostAction.pairing?]
      split <;> rfl
  | unplug on device =>
      rw [act, unplug, emit_pairedOn, unpair_pairedOn, HostAction.pairing?]
      split <;> rfl
  | deliver selection =>
      rcases selection with _ | ⟨on, device⟩
      · rfl
      · rw [act, deliver, pair_pairedOn, HostAction.pairing?]
        split <;> rfl
  | enumerate on =>
      refine pairedOn_congr ?_
      simp only [act, enumerate]
      split <;> rfl
  | choose on =>
      refine pairedOn_congr ?_
      simp only [act, choose]
      split <;> rfl
  | receive id =>
      refine pairedOn_congr ?_
      simp only [act, receive]
      split <;> rfl
  | setAvailable _ _ | emit _ _ | queueResponse _ | failEnumeration _ | setLatency _
  | subscribe _ | cancel _ | forward _ => rfl

theorem after_pairedOn (actions : List HostAction) :
    (host.after actions).pairedOn channel =
      (pairingsOn channel actions).foldl Pairing.arrange (host.pairedOn channel) := by
  induction actions generalizing host with
  | nil => rfl
  | cons action later ih =>
      rw [after, List.foldl_cons, ← after, ih, act_pairedOn, pairingsOn, pairingsOn,
        List.filterMap_cons]
      cases action.pairing? channel <;> rfl

theorem reached_pairedOn (actions : List HostAction) :
    (reached actions).pairedOn channel = Pairing.arranged (pairingsOn channel actions) :=
  after_pairedOn actions

/-! What the answer to an enumeration depends on. -/

theorem setAvailable_isAvailable (on : Channel) (available : Bool) :
    (host.setAvailable on available).isAvailable channel =
      if on = channel then available else host.isAvailable channel := by
  by_cases same : on = channel
  · subst same
    cases available <;> simp [setAvailable, isAvailable]
  · have apart : channel ≠ on := Ne.symm same
    cases available <;> simp [setAvailable, isAvailable, same, apart]

theorem outlook_kept {later : MemoryHost} {action : HostAction}
    (unavailable : later.unavailable = host.unavailable)
    (failure : later.enumerationFailure = host.enumerationFailure)
    (devices : later.pairedOn channel =
      (action.pairing? channel).elim (host.pairedOn channel)
        (Pairing.arrange (host.pairedOn channel))) :
    later.outlook channel =
      (host.isAvailable channel, host.enumerationFailure,
        (action.pairing? channel).elim (host.pairedOn channel)
          (Pairing.arrange (host.pairedOn channel))) := by
  rw [outlook, failure, devices, isAvailable, unavailable, isAvailable]

theorem pair_kept (on : Channel) (device : Device) :
    ((host.pair on device).unavailable = host.unavailable ∧
        (host.pair on device).enumerationFailure = host.enumerationFailure) ∧
      (host.pair on device).responses = host.responses ∧
        (host.pair on device).choosers = host.choosers := by
  rw [pair]
  split <;> exact ⟨⟨rfl, rfl⟩, rfl, rfl⟩

theorem act_outlook (channel : Channel) (action : HostAction) :
    (host.act action).outlook channel = action.revise channel (host.outlook channel) := by
  have devices := host.act_pairedOn channel action
  cases action with
  | setAvailable on available => simp only [outlook, act, setAvailable_isAvailable]; rfl
  | failEnumeration message => rfl
  | pair on device | plugIn on device =>
      obtain ⟨⟨unavailable, failure⟩, _⟩ := host.pair_kept on device
      exact outlook_kept unavailable failure devices
  | deliver selection =>
      rcases selection with _ | ⟨on, device⟩
      · rfl
      · obtain ⟨⟨unavailable, failure⟩, _⟩ := host.pair_kept on device
        exact outlook_kept unavailable failure devices
  | enumerate on | choose on | receive on =>
      refine outlook_kept ?_ ?_ devices
      all_goals
        simp only [act, enumerate, choose, receive]
        split <;> rfl
  | unpair _ _ | unplug _ _ | emit _ _ | queueResponse _ | setLatency _ | subscribe _ | cancel _
  | forward _ => exact outlook_kept rfl rfl devices

theorem after_outlook (actions : List HostAction) :
    (host.after actions).outlook channel =
      actions.foldl (HostAction.revise channel) (host.outlook channel) := by
  induction actions generalizing host with
  | nil => rfl
  | cons action later ih =>
      rw [after, List.foldl_cons, ← after, ih, act_outlook, List.foldl_cons]

theorem foldl_revise_filter {other : Channel} (apart : other ≠ channel)
    (outlook : Bool × Option String × List Device) (actions : List HostAction) :
    (actions.filter fun action => action.channel? ≠ some other).foldl
        (HostAction.revise channel) outlook =
      actions.foldl (HostAction.revise channel) outlook := by
  induction actions generalizing outlook with
  | nil => rfl
  | cons action later ih =>
      by_cases about : action.channel? = some other
      · rw [List.filter_cons_of_neg (by simpa using about), ih, List.foldl_cons,
          HostAction.revise_apart about apart]
      · rw [List.filter_cons_of_pos (by simpa using about), List.foldl_cons, ih, List.foldl_cons]

theorem enumerate_answer_congr {other : MemoryHost}
    (same : other.outlook channel = host.outlook channel) :
    (other.enumerate channel).2.answer = (host.enumerate channel).2.answer := by
  simp only [outlook, Prod.mk.injEq] at same
  obtain ⟨available, failure, devices⟩ := same
  simp only [enumerate, available, failure, devices]
  split <;> rfl

/-! The queue of responses. -/

theorem queue_kept {later : MemoryHost} (responses : later.responses = host.responses)
    (choosers : later.choosers = host.choosers) :
    host.responses ++ [] = [] ++ later.responses ∧ later.choosers = host.choosers + 0 := by
  rw [responses, choosers, List.append_nil, List.nil_append]
  exact ⟨rfl, rfl⟩

theorem choose_queue (on : Channel) :
    host.responses = (host.usedBy (.choose on)).reduceOption ++ (host.choose on).1.responses ∧
      (host.choose on).1.choosers = host.choosers + (host.usedBy (.choose on)).length := by
  simp only [usedBy, choose]
  by_cases available : host.isAvailable on = true
  · rw [if_pos available, if_pos available]
    refine ⟨?_, rfl⟩
    cases host.responses with
    | nil => rfl
    | cons response rest => rfl
  · rw [if_neg available, if_neg available]
    exact ⟨rfl, rfl⟩

theorem act_queue (action : HostAction) :
    host.responses ++ action.queued?.toList =
        (host.usedBy action).reduceOption ++ (host.act action).responses ∧
      (host.act action).choosers = host.choosers + (host.usedBy action).length := by
  cases action with
  | choose on =>
      obtain ⟨responses, opened⟩ := host.choose_queue on
      exact ⟨(List.append_nil _).trans responses, opened⟩
  | queueResponse response => exact ⟨rfl, rfl⟩
  | pair on device | plugIn on device =>
      obtain ⟨_, responses, choosers⟩ := host.pair_kept on device
      exact queue_kept responses choosers
  | deliver selection =>
      rcases selection with _ | ⟨on, device⟩
      · exact queue_kept rfl rfl
      · obtain ⟨_, responses, choosers⟩ := host.pair_kept on device
        exact queue_kept responses choosers
  | enumerate on | receive on =>
      apply queue_kept
      all_goals
        simp only [act, enumerate, receive]
        split <;> rfl
  | setAvailable _ _ | failEnumeration _ | unpair _ _ | unplug _ _ | emit _ _ | setLatency _
  | subscribe _ | cancel _ | forward _ => exact queue_kept rfl rfl

theorem after_queue (actions : List HostAction) :
    host.responses ++ actions.filterMap HostAction.queued? =
        (host.usedUp actions).reduceOption ++ (host.after actions).responses ∧
      (host.after actions).choosers = host.choosers + (host.usedUp actions).length := by
  induction actions generalizing host with
  | nil => exact ⟨List.append_nil _, rfl⟩
  | cons action later ih =>
      obtain ⟨responses, choosers⟩ := @ih (host.act action)
      obtain ⟨queue, opened⟩ := host.act_queue action
      have split : (action :: later).filterMap HostAction.queued? =
          action.queued?.toList ++ later.filterMap HostAction.queued? := by
        cases queued : action.queued? <;> simp [queued]
      rw [after, List.foldl_cons, ← after, usedUp, choosers, opened, split, List.length_append,
        List.reduceOption_append, ← List.append_assoc, queue, List.append_assoc, responses,
        List.append_assoc]
      exact ⟨rfl, Nat.add_assoc _ _ _⟩

theorem choose_answer (available : host.isAvailable channel = true) :
    (host.choose channel).2.answer = responseAnswer (host.responses.headD .cancel) ∧
      (∀ device, (host.choose channel).2.selection = some (channel, device) ↔
        host.responses.head? = some (.select device)) ∧
      (host.choose channel).1 =
        { host with choosers := host.choosers + 1, responses := host.responses.tail } := by
  rw [choose, if_pos available]
  refine ⟨rfl, fun device => ?_, rfl⟩
  rcases host.responses with _ | ⟨(selected | _ | _ | _), _⟩ <;> simp

/-- What a channel's enumerations answer is an ordered set: the devices paired there and not
unpaired since, each of them once, in the order in which they entered, whatever happens on the
other channel. The choosers use up the queued responses in turn, one for each chooser opened on an
available channel; on an unavailable one neither question changes anything. -/
theorem pairings_form_ordered_set (actions : List HostAction) (channel : Channel) :
    (((reached actions).isAvailable channel = true →
          (reached actions).enumerationFailure = none →
            ((reached actions).enumerate channel).2.answer =
              .ok ((reached actions).pairedOn channel)) ∧
        ((reached actions).pairedOn channel).Nodup ∧
        (∀ device, device ∈ (reached actions).pairedOn channel ↔
          Pairing.IsPaired (pairingsOn channel actions) device) ∧
        (∀ device ∈ (reached actions).pairedOn channel,
          ∃! moment, Pairing.EnteredAt (pairingsOn channel actions) device moment) ∧
        ((reached actions).pairedOn channel).Pairwise
          (Pairing.EnteredBefore (pairingsOn channel actions))) ∧
      (∀ other, other ≠ channel →
        ((reached (actions.filter fun action => action.channel? ≠ some other)).enumerate
            channel).2.answer = ((reached actions).enumerate channel).2.answer) ∧
      (actions.filterMap HostAction.queued? =
          (usedUp {} actions).reduceOption ++ (reached actions).responses ∧
        (reached actions).choosers = (usedUp {} actions).length) ∧
      ((reached actions).isAvailable channel = true →
        ((reached actions).choose channel).2.answer =
            responseAnswer ((reached actions).responses.headD .cancel) ∧
          (∀ device, ((reached actions).choose channel).2.selection = some (channel, device) ↔
            (reached actions).responses.head? = some (.select device)) ∧
          ((reached actions).choose channel).1 =
            { reached actions with
              choosers := (reached actions).choosers + 1
              responses := (reached actions).responses.tail }) ∧
      ((reached actions).isAvailable channel = false →
        (reached actions).choose channel =
            (reached actions, { answer := .error (.unavailable channel) }) ∧
          (reached actions).enumerate channel =
            (reached actions, { answer := .error (.unavailable channel) })) := by
  have devices : (reached actions).pairedOn channel = _ := reached_pairedOn actions
  obtain ⟨queue, choosers⟩ := ({} : MemoryHost).after_queue actions
  refine ⟨⟨?_, ?_, ?_, ?_, ?_⟩, ?_, ⟨queue, ?_⟩, choose_answer, ?_⟩
  · intro available intact
    simp only [enumerate, if_pos available, intact]
  · rw [devices]
    exact Pairing.arranged_nodup _
  · intro device
    rw [devices]
    exact Pairing.mem_arranged
  · intro device stands
    rw [devices, Pairing.mem_arranged] at stands
    exact Pairing.existsUnique_enteredAt stands
  · rw [devices]
    exact Pairing.arranged_pairwise _
  · intro other apart
    apply enumerate_answer_congr
    rw [reached, reached, after_outlook, after_outlook, foldl_revise_filter apart]
  · rw [reached, choosers]
    exact Nat.zero_add _
  · intro unavailable
    have closed : ¬(reached actions).isAvailable channel = true := by simp [unavailable]
    exact ⟨if_neg closed, if_neg closed⟩

def guestDevice : Device := { vendorId := 0x534c, productId := 1 }

def comebacks : List HostAction :=
  [.queueResponse (.select guestDevice), .pair .webHid ownDevice, .pair .webUsb ownDevice,
    .choose .webHid, .unpair .webHid ownDevice, .deliver (some (.webHid, guestDevice)),
    .plugIn .webHid ownDevice, .pair .webHid guestDevice, .setAvailable .webUsb false]

theorem pairings_form_ordered_set_comebacks :
    ((reached comebacks).enumerate .webHid).2.answer = .ok [guestDevice, ownDevice] ∧
      ((reached comebacks).choose .webHid).2.answer = responseAnswer .cancel ∧
      (reached comebacks).choose .webUsb =
        (reached comebacks, { answer := .error (.unavailable .webUsb) }) := by
  obtain ⟨⟨listed, _⟩, _, _, dismissed, _⟩ := pairings_form_ordered_set comebacks .webHid
  obtain ⟨_, _, _, _, refused⟩ := pairings_form_ordered_set comebacks .webUsb
  exact ⟨listed (by decide) (by decide), (dismissed (by decide)).1, (refused (by decide)).1⟩

end MemoryHost

end SignerLink
