import SignerLink.Proofs.Connection.Fields
/-!
What publishing shows. Apart from a disconnection while an attempt runs, the state after it is
the one asked for, up to what subscribers need not tell apart.
-/

namespace SignerLink

namespace ConnectionState

variable {state other : ConnectionState}

theorem alike_refl (state : ConnectionState) : state.alike state := by
  cases state <;> simp [alike]

theorem alike_isConnected (same : state.alike other) : state.isConnected = other.isConnected := by
  cases state <;> cases other <;> simp_all [alike, isConnected]

theorem eq_of_alike (same : state.alike other) (plain : other.isFailed = false) :
    state = other := by
  cases state <;> cases other <;> simp_all [alike, isFailed]

theorem alike_connecting (same : state.alike other) :
    state = .connecting ↔ other = .connecting := by
  cases state <;> cases other <;> simp_all [alike]

theorem alike_awaitingConfirmation (same : state.alike other) :
    state = .awaitingConfirmation ↔ other = .awaitingConfirmation := by
  cases state <;> cases other <;> simp_all [alike]

end ConnectionState

namespace Connection

variable {Bench : Type} (connection : Connection Bench)

theorem publish_cases (event : StateEvent) :
    connection.session.connecting = true ∧ event = .disconnected ∧
        connection.publish event = connection ∨
      connection.state.alike event.target ∧ connection.publish event = connection ∨
      (connection.publish event).published = connection.published.publish event.target := by
  simp only [publish, transition]
  split
  next kept =>
    split at kept
    next hidden => exact .inl ⟨by simp_all, by simp_all, rfl⟩
    next =>
      split at kept
      next same => exact .inr (.inl ⟨same, rfl⟩)
      next => cases kept
  next next changed =>
    split at changed
    next => cases changed
    next =>
      split at changed
      next => cases changed
      next => cases changed; exact .inr (.inr rfl)

/-- A property of states that subscribers can tell holds of the state asked for. -/
theorem publish_shows {holds : ConnectionState → Prop}
    (respects : ∀ {state other : ConnectionState}, state.alike other → (holds state ↔ holds other))
    {event : StateEvent} (shown : holds (connection.publish event).state) :
    holds event.target ∨
      connection.session.connecting = true ∧ event = .disconnected ∧ holds connection.state := by
  rcases connection.publish_cases event with ⟨busy, hidden, same⟩ | ⟨same, kept⟩ | changed
  · rw [same] at shown
    exact .inr ⟨busy, hidden, shown⟩
  · rw [kept] at shown
    exact .inl ((respects same).mp shown)
  · rw [state, changed] at shown
    exact .inl shown

theorem publish_state {event : StateEvent}
    (seen : connection.session.connecting = false ∨ event ≠ .disconnected)
    (plain : event.target.isFailed = false) :
    (connection.publish event).state = event.target := by
  rcases connection.publish_cases event with ⟨busy, hidden, _⟩ | ⟨same, kept⟩ | changed
  · rcases seen with idle | other
    · rw [idle] at busy
      cases busy
    · exact absurd hidden other
  · rw [kept]
    exact ConnectionState.eq_of_alike same plain
  · rw [state, changed]
    rfl

theorem publish_alike {event : StateEvent}
    (seen : connection.session.connecting = false ∨ event ≠ .disconnected) :
    (connection.publish event).state.alike event.target := by
  rcases connection.publish_cases event with ⟨busy, hidden, _⟩ | ⟨same, kept⟩ | changed
  · rcases seen with idle | other
    · rw [idle] at busy
      cases busy
    · exact absurd hidden other
  · rw [kept]
    exact same
  · rw [state, changed]
    exact ConnectionState.alike_refl _

theorem publish_isConnected {event : StateEvent}
    (seen : connection.session.connecting = false ∨ event ≠ .disconnected) :
    (connection.publish event).state.isConnected = event.target.isConnected := by
  rcases connection.publish_cases event with ⟨busy, hidden, _⟩ | ⟨same, kept⟩ | changed
  · rcases seen with idle | other
    · rw [idle] at busy
      cases busy
    · exact absurd hidden other
  · rw [kept]
    exact ConnectionState.alike_isConnected same
  · rw [state, changed]
    rfl

end Connection

end SignerLink
