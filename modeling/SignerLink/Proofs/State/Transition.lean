import Mathlib.Data.List.Induction
import SignerLink.State.Event
/-!
Runs of the connection state through the events that arrive one after another. Where a run ends
depends only on the last event that is shown, and nothing is announced that subscribers could
not tell from what they saw before.
-/

namespace SignerLink

/-- What subscribers tell apart: the kind of state, the reason and the message of a failure, and
the reason and the name of a missing application. -/
inductive Face where
  | plain (status : String)
  | awaitingApp (reason : AppReason) (app : Option String)
  | failed (reason : ErrorReason) (message : String)
  deriving DecidableEq

namespace ConnectionState

def face : ConnectionState → Face
  | .awaitingApp reason app => .awaitingApp reason app
  | .failed reason error => .failed reason error.message
  | state => .plain state.status

theorem alike_iff_face (left right : ConnectionState) :
    left.alike right = true ↔ left.face = right.face := by
  cases left <;> cases right <;> simp [alike, face, status]

end ConnectionState

/-- An event, and whether an attempt runs when it arrives. -/
structure Arrival where
  event : StateEvent
  connecting : Bool
  deriving DecidableEq

namespace Arrival

/-- While an attempt runs, a disconnection is not shown. -/
def IsHidden (arrival : Arrival) : Prop :=
  arrival.connecting = true ∧ arrival.event = .disconnected

instance : DecidablePred IsHidden := fun _ => inferInstanceAs (Decidable (_ ∧ _))

/-- The state that is announced when the event arrives, if any is. -/
def announced? (state : ConnectionState) (arrival : Arrival) : Option ConnectionState :=
  transition state arrival.event arrival.connecting

variable (state : ConnectionState) (arrival : Arrival)

theorem announced?_of_hidden (hidden : arrival.IsHidden) : arrival.announced? state = none := by
  obtain ⟨busy, disconnected⟩ := hidden
  simp [announced?, transition, busy, disconnected]

theorem announced?_of_shown (shown : ¬arrival.IsHidden) :
    arrival.announced? state =
      if state.face = arrival.event.target.face then none else some arrival.event.target := by
  have visible : ¬((arrival.connecting && arrival.event == .disconnected) = true) := by
    simpa [IsHidden] using shown
  simp only [announced?, transition, if_neg visible, ConnectionState.alike_iff_face]

theorem announced?_eq_some {next : ConnectionState}
    (announced : arrival.announced? state = some next) :
    ¬arrival.IsHidden ∧ next = arrival.event.target ∧ next.face ≠ state.face := by
  by_cases hidden : arrival.IsHidden
  · rw [arrival.announced?_of_hidden state hidden] at announced
    cases announced
  · rw [arrival.announced?_of_shown state hidden] at announced
    split at announced
    next => cases announced
    next changed =>
      cases announced
      exact ⟨hidden, rfl, fun same => changed same.symm⟩

theorem announced?_eq_none (silent : arrival.announced? state = none) :
    arrival.IsHidden ∨ arrival.event.target.face = state.face := by
  by_cases hidden : arrival.IsHidden
  · exact .inl hidden
  · rw [arrival.announced?_of_shown state hidden] at silent
    split at silent
    next same => exact .inr same.symm
    next => cases silent

def next : ConnectionState := (arrival.announced? state).getD state

theorem next_of_hidden (hidden : arrival.IsHidden) : arrival.next state = state := by
  rw [next, arrival.announced?_of_hidden state hidden, Option.getD_none]

theorem next_face (shown : ¬arrival.IsHidden) :
    (arrival.next state).face = arrival.event.target.face := by
  rw [next, arrival.announced?_of_shown state shown]
  split
  next same => exact same
  next => rfl

end Arrival

namespace ConnectionState

def run (start : ConnectionState) (arrivals : List Arrival) : ConnectionState :=
  arrivals.foldl (fun state arrival => arrival.next state) start

/-- What the last shown event asks for; the state itself where none is shown. -/
def lastTarget (start : ConnectionState) (arrivals : List Arrival) : ConnectionState :=
  ((arrivals.filter fun arrival => ¬arrival.IsHidden).getLast?.map (·.event.target)).getD start

variable (start : ConnectionState) (arrivals : List Arrival) {arrival : Arrival}

theorem run_concat (arrival : Arrival) :
    start.run (arrivals ++ [arrival]) = arrival.next (start.run arrivals) := by
  simp only [run, List.foldl_append, List.foldl_cons, List.foldl_nil]

theorem lastTarget_concat_of_hidden (hidden : arrival.IsHidden) :
    start.lastTarget (arrivals ++ [arrival]) = start.lastTarget arrivals := by
  simp [lastTarget, List.filter_append, hidden]

theorem lastTarget_concat_of_shown (shown : ¬arrival.IsHidden) :
    start.lastTarget (arrivals ++ [arrival]) = arrival.event.target := by
  simp [lastTarget, List.filter_append, shown]

theorem run_face : (start.run arrivals).face = (start.lastTarget arrivals).face := by
  -- From the end of the list: a hidden event changes neither side, a shown one settles both.
  induction arrivals using List.reverseRecOn with
  | nil => rfl
  | append_singleton earlier arrival ih =>
      rw [run_concat]
      by_cases hidden : arrival.IsHidden
      · rw [arrival.next_of_hidden _ hidden, lastTarget_concat_of_hidden start earlier hidden]
        exact ih
      · rw [arrival.next_face _ hidden, lastTarget_concat_of_shown start earlier hidden]

/-- A run ends in what its last shown event asks for, up to what subscribers need not tell apart.
On the way what is announced is exactly what the event asks for, and subscribers can tell the
change; where nothing is announced, the event is hidden or changes nothing for them. -/
theorem run_follows_last_event :
    (start.run arrivals).face = (start.lastTarget arrivals).face ∧
    ∀ index : Fin arrivals.length,
      match arrivals[index].announced? (start.run (arrivals.take index)) with
      | some next =>
          ¬arrivals[index].IsHidden ∧ next = arrivals[index].event.target ∧
            next.face ≠ (start.run (arrivals.take index)).face
      | none =>
          arrivals[index].IsHidden ∨
            arrivals[index].event.target.face = (start.run (arrivals.take index)).face := by
  refine ⟨start.run_face arrivals, fun index => ?_⟩
  split
  next next announced => exact arrivals[index].announced?_eq_some _ announced
  next silent => exact arrivals[index].announced?_eq_none _ silent

-- A disconnection that comes while an attempt runs does not count, although it comes last.
example : run .ready [⟨.connecting, true⟩, ⟨.disconnected, true⟩] = .connecting := by decide

end ConnectionState

end SignerLink
