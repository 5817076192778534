import SignerLink.Proofs.Connection.Leadership
import SignerLink.Proofs.Connection.Published
/-!
No session is stuck. Once nobody is in the middle of a connect, a disconnect or an operation, the
session has either nothing or a device with all that belongs to it, and shows neither an attempt
nor an operation.
-/

namespace SignerLink

def Flight.settles : Flight → Bool
  | .disconnect _ _ | .operation _ => true
  | .attempt _ _ | .verification _ => false

/-- What is shown as going on does go on. -/
structure Situation.Truthful {Bench : Type} (situation : Situation Bench) : Prop where
  connecting : situation.connection.state = .connecting →
    situation.connection.session.connecting = true
  confirming : situation.connection.state = .awaitingConfirmation →
    ∃ flight ∈ situation.flights, flight.settles ∧
      situation.connection.session.token = some flight.token

def StateEvent.isCalm (event : StateEvent) : Prop :=
  event.target ≠ .connecting ∧ event.target ≠ .awaitingConfirmation

theorem StateEvent.isCalm_of_isVerdict {event : StateEvent} (verdict : event.isVerdict) :
    event.isCalm := by
  cases event <;> simp_all [isCalm, isVerdict, target]

theorem StateEvent.ofNotice_isCalm (notice : Notice) (wallet : Option Wallet) :
    (ofNotice notice wallet).isCalm := by
  simp only [ofNotice]
  split
  case h_4 => split <;> simp [isCalm, target]
  all_goals simp [isCalm, target]

theorem Flight.mem_of_silent {flights : Multiset Flight} {ended flight : Flight}
    (silent : ended.settles = false) (member : flight ∈ ended ::ₘ flights)
    (settles : flight.settles = true) : flight ∈ flights := by
  rcases Multiset.mem_cons.mp member with rfl | member
  · rw [silent] at settles
    cases settles
  · exact member

theorem Flight.mem_of_stale {flights : Multiset Flight} {ended flight : Flight}
    {token : Option Token} (stale : token ≠ some ended.token)
    (member : flight ∈ ended ::ₘ flights) (current : token = some flight.token) :
    flight ∈ flights := by
  rcases Multiset.mem_cons.mp member with rfl | member
  · exact absurd current stale
  · exact member

namespace Situation.Truthful

variable {Bench : Type} {connection next : Connection Bench} {flights others : Multiset Flight}
  {isOver ended : Bool}

theorem of_same (truthful : Truthful ⟨connection, flights, isOver⟩)
    (sameState : next.state = connection.state)
    (sameToken : next.session.token = connection.session.token)
    (sameConnecting : next.session.connecting = connection.session.connecting)
    (kept : ∀ flight ∈ flights, flight.settles → connection.session.token = some flight.token →
      flight ∈ others) : Truthful ⟨next, others, ended⟩ where
  connecting shown := sameConnecting.trans (truthful.connecting (sameState.symm.trans shown))
  confirming shown := by
    obtain ⟨flight, member, settles, current⟩ :=
      truthful.confirming (sameState.symm.trans shown)
    exact ⟨flight, kept flight member settles current, settles, sameToken.trans current⟩

theorem publish {event : StateEvent} (calm : event.isCalm)
    (hidden : connection.session.connecting = true → event = .disconnected →
      Truthful ⟨connection, flights, isOver⟩) :
    Truthful ⟨connection.publish event, flights, isOver⟩ where
  connecting shown := by
    rw [Connection.publish_session]
    rcases connection.publish_shows ConnectionState.alike_connecting shown with begun | ⟨busy, _⟩
    · exact absurd begun calm.1
    · exact busy
  confirming shown := by
    rw [Connection.publish_session]
    rcases connection.publish_shows ConnectionState.alike_awaitingConfirmation shown with
      begun | ⟨busy, unseen, before⟩
    · exact absurd begun calm.2
    · exact (hidden busy unseen).confirming before

theorem publish_verdict {event : StateEvent} (verdict : event.isVerdict) :
    Truthful ⟨connection.publish event, flights, isOver⟩ := by
  refine publish (StateEvent.isCalm_of_isVerdict verdict) ?_
  rintro _ rfl
  cases verdict

end Situation.Truthful

theorem StateEvent.disconnected_isCalm : StateEvent.disconnected.isCalm := ⟨nofun, nofun⟩

theorem StateEvent.connected_isCalm : StateEvent.connected.isCalm := ⟨nofun, nofun⟩

variable {Bench : Type} [AdapterBench Bench] {connection : Connection Bench}
  {flights : Multiset Flight} {isOver : Bool}

namespace Connection

theorem beginAttempt_truthful (wallet : Wallet) (deviceId : Option String) :
    Situation.Truthful ⟨(connection.beginAttempt wallet deviceId).1, flights, isOver⟩ where
  connecting _ := by simp
  confirming shown := by
    rcases publish_shows _ ConnectionState.alike_awaitingConfirmation shown with
      begun | ⟨_, other, _⟩
    · cases begun
    · cases other

theorem disconnectAnswered_truthful {call : DisconnectCall}
    (live : connection.cancelled = false)
    (truthful : Situation.Truthful
      ⟨connection, .disconnect call.token call.adapter ::ₘ flights, isOver⟩) :
    Situation.Truthful ⟨connection.disconnectAnswered call, flights, isOver⟩ := by
  have sameToken := connection.discard_token call.adapter
  by_cases current : connection.session.token = some call.token
  · rw [disconnectAnswered, finishDisconnect_current _ (sameToken.trans current)
      ((connection.discard_cancelled _).trans live)]
    exact .publish StateEvent.disconnected_isCalm fun busy => absurd busy Bool.false_ne_true
  · rw [disconnectAnswered, finishDisconnect_stale _ (sameToken ▸ current)]
    refine truthful.of_same (by simp) sameToken ?_ ?_
    · rw [discard_session]
      split <;> rfl
    · exact fun _ member _ leads => Flight.mem_of_stale current member leads

theorem clearError_truthful (truthful : Situation.Truthful ⟨connection, flights, isOver⟩) :
    Situation.Truthful ⟨connection.clearError, flights, isOver⟩ := by
  simp only [clearError]
  split
  next => exact truthful
  next =>
    refine .publish ?_ fun _ _ => truthful
    split
    · exact StateEvent.connected_isCalm
    · exact StateEvent.disconnected_isCalm

theorem handleDisconnect_truthful (error : Option WalletError)
    (truthful : Situation.Truthful ⟨connection, flights, isOver⟩) :
    Situation.Truthful ⟨connection.handleDisconnect error, flights, isOver⟩ := by
  simp only [handleDisconnect]
  split
  next => exact truthful
  next attended =>
    cases error with
    | none =>
        refine .publish StateEvent.disconnected_isCalm fun busy _ => ?_
        simp_all
    | some error => exact .publish_verdict (StateEvent.ofError_isVerdict error)

omit [AdapterBench Bench] in
theorem handleNotice_truthful (token : Token) (notice : Notice)
    (truthful : Situation.Truthful ⟨connection, flights, isOver⟩) :
    Situation.Truthful ⟨connection.handleNotice token notice, flights, isOver⟩ := by
  simp only [handleNotice]
  split
  next => exact truthful
  next =>
    refine .publish (StateEvent.ofNotice_isCalm _ _) fun _ _ => ?_
    split
    · exact truthful.of_same rfl rfl rfl fun _ member _ _ => member
    · exact truthful

omit [AdapterBench Bench] in
theorem awaiting_truthful {token : Token} (current : connection.session.token = some token) :
    Situation.Truthful
      ⟨connection.publish .awaitingConfirmation, .operation token ::ₘ flights, isOver⟩ where
  connecting shown := by
    rcases publish_shows _ ConnectionState.alike_connecting shown with begun | ⟨_, other, _⟩
    · cases begun
    · cases other
  confirming _ := ⟨.operation token, Multiset.mem_cons_self _ _, rfl, by simpa⟩

end Connection

theorem Move.truthful {evolves : Bench → Bench → Prop} {before after : Situation Bench}
    {shown : Option Unbacked} (move : Move evolves before shown after)
    (live : before.connection.cancelled = false) (truthful : before.Truthful)
    (goesOn : after.isOver = false) : after.Truthful := by
  cases move with
  | serve _ signals _ =>
      exact truthful.of_same (Connection.state_deliver _ signals) (by simp) (by simp)
        fun _ member _ _ => member
  | inbox _ _ | locate _ _ => exact truthful.of_same rfl rfl rfl fun _ member _ _ => member
  | teardown | cancel => cases goesOn
  | takeOver wallet deviceId _ => exact Connection.beginAttempt_truthful wallet deviceId
  | giveWay _ =>
      exact truthful.of_same rfl rfl rfl fun _ member settles _ =>
        Flight.mem_of_silent rfl member settles
  | install _ _ _ _ =>
      exact truthful.of_same rfl rfl rfl fun _ member settles _ =>
        Multiset.mem_cons_of_mem (Flight.mem_of_silent rfl member settles)
  | connect _ => exact .publish StateEvent.connected_isCalm nofun
  | fail error _ => exact .publish_verdict (StateEvent.ofError_isVerdict error)
  | discard _ =>
      refine truthful.of_same (by simp) (by simp) ?_ fun _ member settles _ =>
        Flight.mem_of_silent rfl member settles
      rw [Connection.discard_session]
      split <;> rfl
  | leave _ =>
      refine ⟨truthful.connecting, fun _ => ?_⟩
      exact ⟨_, Multiset.mem_cons_self _ _, rfl, rfl⟩
  | @leaveNothing connection _ _ held =>
      rw [Connection.finishDisconnect_current connection.supersede rfl live]
      exact .publish StateEvent.disconnected_isCalm nofun
  | left call => exact Connection.disconnectAnswered_truthful live truthful
  | reset => exact .publish StateEvent.disconnected_isCalm nofun
  | clearError => exact Connection.clearError_truthful truthful
  | lose error => exact Connection.handleDisconnect_truthful error truthful
  | notice token notice => exact Connection.handleNotice_truthful token notice truthful
  | hold _ _ =>
      exact truthful.of_same rfl rfl rfl fun _ member _ _ => Multiset.mem_cons_of_mem member
  | @verify connection token _ _ wallet answer =>
      rcases connection.verifyAnswered_cases token wallet answer with
        ⟨_, same⟩ | ⟨_, event, verdict, seen⟩
      · rw [same]
        exact truthful.of_same rfl rfl rfl fun _ member settles _ =>
          Flight.mem_of_silent rfl member settles
      · rw [seen]
        exact .publish_verdict verdict
  | @operate connection _ _ token _ current =>
      simp only at live
      rw [live, if_neg Bool.false_ne_true]
      exact Connection.awaiting_truthful current
  | @operated connection _ _ call =>
      rcases connection.operationAnswered_cases call with
        ⟨interrupted, same⟩ | ⟨_, event, verdict, seen⟩
      · rw [same]
        have stale := Connection.stale_of_interruption? live interrupted
        exact truthful.of_same rfl rfl rfl fun _ member _ leads =>
          Flight.mem_of_stale stale member leads
      · rw [seen]
        exact .publish_verdict verdict

/-- Nothing is going on, and a device is held with all that belongs to it or not at all. -/
structure Connection.IsSettled (connection : Connection Bench) : Prop where
  connecting : connection.session.connecting = false
  state : connection.state ≠ .connecting ∧ connection.state ≠ .awaitingConfirmation
  paired : connection.session.token.isSome = connection.session.adapter.isSome
  complete : connection.session.adapter.isSome →
    connection.session.wallet.isSome ∧ connection.session.deviceId.isSome

def ConnectionCall.isVerification : ConnectionCall → Bool
  | .readiness (.verifying _ _ _ _) => true
  | _ => false

omit [AdapterBench Bench] in
theorem Situation.settled {situation : Situation Bench}
    (led : Led situation.connection.session situation.flights) (truthful : situation.Truthful)
    (quiet : ∀ flight ∈ situation.flights, flight.isOwner = false ∧ flight.settles = false) :
    situation.connection.IsSettled := by
  have ownerless (token : Token) {leader : Flight} :
      owners situation.flights token ≠ {leader} := by
    intro alone
    obtain ⟨member, owner, _⟩ := mem_of_owners_eq alone
    rw [(quiet leader member).1] at owner
    cases owner
  have still : situation.connection.session.connecting = false ∧
      situation.connection.session.token.isSome = situation.connection.session.adapter.isSome ∧
      (situation.connection.session.adapter.isSome →
        situation.connection.session.wallet.isSome ∧
          situation.connection.session.deviceId.isSome) := by
    cases led with
    | idle noToken noAdapter still =>
        exact ⟨still, by simp [noToken, noAdapter], by simp [noAdapter]⟩
    | searching token _ _ _ alone _ => exact absurd alone (ownerless token)
    | connecting token _ _ _ _ _ alone _ => exact absurd alone (ownerless token)
    | connected token adapter current held still wallet device _ _ =>
        exact ⟨still, by simp [current, held], fun _ => ⟨wallet, device⟩⟩
    | leaving token _ _ _ alone => exact absurd alone (ownerless token)
  refine ⟨still.1, ⟨fun seen => ?_, fun seen => ?_⟩, still.2.1, still.2.2⟩
  · have busy := truthful.connecting seen
    rw [still.1] at busy
    cases busy
  · obtain ⟨flight, member, settles, _⟩ := truthful.confirming seen
    rw [(quiet flight member).2] at settles
    cases settles

namespace Run

variable [FreshBench Bench] {run : Run Bench}

theorem start_sound (bench : Bench) : (start bench).situation.Sound := by
  refine ⟨rfl, start_issued bench, ?_, .idle rfl rfl rfl⟩
  constructor
  · intro adapter held
    cases held
  · intro flight member
    simp [situation, start] at member

theorem Reachable.sound (reachable : run.Reachable FreshBench.evolves)
    (live : run.connection.cancelled = false) : run.situation.Sound := by
  obtain ⟨bench, steps⟩ := reachable
  refine steps.keep (fun situation => situation.connection.cancelled = false → situation.Sound)
    FreshBench.serves ?_ (fun _ => start_sound bench) live
  exact fun move kept later => move.sound (kept (move.live_of later)) later

theorem Reachable.sound_truthful (reachable : run.Reachable FreshBench.evolves)
    (goesOn : run.isOver = false) : run.situation.Sound ∧ run.situation.Truthful := by
  obtain ⟨bench, steps⟩ := reachable
  -- A session that has ended keeps neither, so the invariant carries the condition along.
  refine steps.keep (fun situation => situation.isOver = false →
    situation.Sound ∧ situation.Truthful) FreshBench.serves ?_ ?_ goesOn
  · intro before shown after move kept later
    obtain ⟨sound, truthful⟩ := kept (move.isOver_of later).1
    have live := (move.isOver_of later).2.trans sound.live
    exact ⟨move.sound sound live, move.truthful sound.live truthful later⟩
  · exact fun _ => ⟨start_sound bench, nofun, nofun⟩

theorem Reachable.settled (reachable : run.Reachable FreshBench.evolves)
    (goesOn : run.isOver = false) (quiet : ∀ call ∈ run.calls, call.isVerification) :
    run.connection.IsSettled := by
  obtain ⟨sound, truthful⟩ := reachable.sound_truthful goesOn
  refine Situation.settled sound.led truthful ?_
  intro flight member
  obtain ⟨call, waits, rfl⟩ := Multiset.mem_map.mp member
  have verifies := quiet call waits
  rcases call with _ | (_ | _) | _ | _
  case readiness.verifying => exact ⟨rfl, rfl⟩
  all_goals cases verifies

end Run

end SignerLink
