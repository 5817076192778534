import SignerLink.Proofs.Adapter.Fresh
import SignerLink.Proofs.Connection.AdapterChange
import SignerLink.Proofs.Connection.Tokens
/-!
Who leads the session on. Until the session is over, every state between two settled ones has one
call in flight whose duty it is to leave it.
-/

namespace SignerLink

/-- The session's token, its adapter and the flights agree about what goes on. -/
inductive Led (session : Session) (flights : Multiset Flight) : Prop where
  | idle : session.token = none → session.adapter = none → session.connecting = false →
      Led session flights
  | searching (token : Token) : session.token = some token → session.adapter = none →
      session.wallet.isSome → owners flights token = {.attempt token none} →
      (∀ flight ∈ flights, flight.token = token → flight.isOwner) → Led session flights
  | connecting (token : Token) (adapter : AdapterId) : session.token = some token →
      session.adapter = some adapter → session.wallet.isSome → session.deviceId.isSome →
      owners flights token = {.attempt token (some adapter)} →
      (∀ flight ∈ flights, flight.adapter? = some adapter → flight.token = token) →
      Led session flights
  | connected (token : Token) (adapter : AdapterId) : session.token = some token →
      session.adapter = some adapter → session.connecting = false → session.wallet.isSome →
      session.deviceId.isSome → owners flights token = 0 →
      (∀ flight ∈ flights, flight.adapter? ≠ some adapter) → Led session flights
  | leaving (token : Token) (adapter : AdapterId) : session.token = some token →
      session.adapter = none ∨ session.adapter = some adapter →
      owners flights token = {.disconnect token adapter} → Led session flights

namespace Led

variable {session next : Session} {flights : Multiset Flight} {flight : Flight} {token : Token}

theorem of_session (led : Led session flights) (sameToken : next.token = session.token)
    (sameAdapter : next.adapter = session.adapter)
    (sameConnecting : next.connecting = session.connecting)
    (sameWallet : next.wallet = session.wallet)
    (sameDevice : session.deviceId.isSome → next.deviceId.isSome) : Led next flights := by
  cases led with
  | idle noToken noAdapter still =>
      exact .idle (sameToken.trans noToken) (sameAdapter.trans noAdapter)
        (sameConnecting.trans still)
  | searching token current noAdapter wallet owner alone =>
      exact .searching token (sameToken.trans current) (sameAdapter.trans noAdapter)
        (sameWallet ▸ wallet) owner alone
  | connecting token adapter current held wallet device owner others =>
      exact .connecting token adapter (sameToken.trans current) (sameAdapter.trans held)
        (sameWallet ▸ wallet) (sameDevice device) owner others
  | connected token adapter current held still wallet device owner others =>
      exact .connected token adapter (sameToken.trans current) (sameAdapter.trans held)
        (sameConnecting.trans still) (sameWallet ▸ wallet) (sameDevice device) owner others
  | leaving token adapter current held owner =>
      exact .leaving token adapter (sameToken.trans current) (sameAdapter ▸ held) owner

theorem without (led : Led session (flight ::ₘ flights))
    (other : flight.isOwner → session.token ≠ some flight.token) : Led session flights := by
  have sameOwners {token : Token} (current : session.token = some token) :
      owners (flight ::ₘ flights) token = owners flights token := by
    rw [owners_cons, if_neg]
    rintro ⟨owner, rfl⟩
    exact other owner current
  cases led with
  | idle noToken noAdapter still => exact .idle noToken noAdapter still
  | searching token current noAdapter wallet owner alone =>
      exact .searching token current noAdapter wallet ((sameOwners current).symm.trans owner)
        fun other member => alone other (Multiset.mem_cons_of_mem member)
  | connecting token adapter current held wallet device owner sole =>
      exact .connecting token adapter current held wallet device
        ((sameOwners current).symm.trans owner)
        fun other member => sole other (Multiset.mem_cons_of_mem member)
  | connected token adapter current held still wallet device owner free =>
      exact .connected token adapter current held still wallet device
        ((sameOwners current).symm.trans owner)
        fun other member => free other (Multiset.mem_cons_of_mem member)
  | leaving token adapter current held owner =>
      exact .leaving token adapter current held ((sameOwners current).symm.trans owner)

theorem isOwner_of_adapter {adapter : AdapterId} (mentioned : flight.adapter? = some adapter) :
    flight.isOwner = true := by
  cases flight <;> first | rfl | cases mentioned

theorem along (led : Led session flights) (follows : flight.isOwner = false)
    (holding : session.adapter.isSome) : Led session (flight ::ₘ flights) := by
  have sameOwners (token : Token) : owners (flight ::ₘ flights) token = owners flights token := by
    rw [owners_cons, if_neg (by simp [follows])]
  cases led with
  | idle _ noAdapter _ => rw [noAdapter] at holding; cases holding
  | searching _ _ noAdapter _ _ _ => rw [noAdapter] at holding; cases holding
  | connecting token adapter current held wallet device owner sole =>
      refine .connecting token adapter current held wallet device
        ((sameOwners token).trans owner) ?_
      intro other member mentioned
      rcases Multiset.mem_cons.mp member with rfl | member
      · rw [isOwner_of_adapter mentioned] at follows
        cases follows
      · exact sole other member mentioned
  | connected token adapter current held still wallet device owner free =>
      refine .connected token adapter current held still wallet device
        ((sameOwners token).trans owner) ?_
      intro other member mentioned
      rcases Multiset.mem_cons.mp member with rfl | member
      · rw [isOwner_of_adapter mentioned] at follows
        cases follows
      · exact free other member mentioned
  | leaving token adapter current held owner =>
      exact .leaving token adapter current held ((sameOwners token).trans owner)

theorem leaving_of_discard {adapter : AdapterId} (led : Led session (flight ::ₘ flights))
    (mentioned : flight.adapter? = some adapter) (stale : session.token ≠ some flight.token)
    (held : session.adapter = some adapter) :
    ∃ token other, session.token = some token ∧
      owners flights token = {.disconnect token other} := by
  cases led with
  | idle _ noAdapter _ => rw [noAdapter] at held; cases held
  | searching _ _ noAdapter _ _ _ => rw [noAdapter] at held; cases held
  | connecting token _ current other _ _ _ sole =>
      cases other.symm.trans held
      have owned := sole flight (Multiset.mem_cons_self _ _) mentioned
      exact absurd (owned ▸ current) stale
  | connected token _ current other _ _ _ _ free =>
      cases other.symm.trans held
      exact absurd mentioned (free flight (Multiset.mem_cons_self _ _))
  | leaving token left current _ owner =>
      refine ⟨token, left, current, ?_⟩
      rw [owners_cons, if_neg] at owner
      · exact owner
      · rintro ⟨_, rfl⟩
        exact stale current

theorem discard {adapter : AdapterId} (led : Led session (flight ::ₘ flights))
    (mentioned : flight.adapter? = some adapter) (stale : session.token ≠ some flight.token) :
    Led (if session.adapter = some adapter then { session with adapter := none } else session)
      flights := by
  split
  next held =>
    obtain ⟨token, other, current, alone⟩ := led.leaving_of_discard mentioned stale held
    exact .leaving token other current (.inl rfl) alone
  next => exact led.without fun _ => stale

/-! The flight that leads. -/

theorem owner_alone {leader : Flight} (owner : flight.isOwner)
    (alone : owners (flight ::ₘ flights) flight.token = {leader}) :
    flight = leader ∧ owners flights flight.token = 0 := by
  rw [owners_cons, if_pos ⟨owner, rfl⟩, eq_comm, Multiset.singleton_eq_cons_iff] at alone
  exact ⟨alone.1.symm, alone.2⟩

theorem leads (led : Led session (flight ::ₘ flights)) (owner : flight.isOwner)
    (current : session.token = some flight.token) :
    owners flights flight.token = 0 ∧
      (flight = .attempt flight.token none ∧ session.adapter = none ∧ session.wallet.isSome ∨
        (∃ adapter, flight = .attempt flight.token (some adapter) ∧
          session.adapter = some adapter ∧ session.wallet.isSome ∧ session.deviceId.isSome ∧
          ∀ other ∈ flights, other.adapter? = some adapter → other.token = flight.token) ∨
        ∃ adapter, flight = .disconnect flight.token adapter ∧
          (session.adapter = none ∨ session.adapter = some adapter)) := by
  cases led with
  | idle noToken _ _ => rw [noToken] at current; cases current
  | searching _ same noAdapter wallet alone _ =>
      cases same.symm.trans current
      obtain ⟨leader, none⟩ := owner_alone owner alone
      exact ⟨none, .inl ⟨leader, noAdapter, wallet⟩⟩
  | connecting _ adapter same held wallet device alone sole =>
      cases same.symm.trans current
      obtain ⟨leader, none⟩ := owner_alone owner alone
      exact ⟨none, .inr (.inl ⟨adapter, leader, held, wallet, device,
        fun other member => sole other (Multiset.mem_cons_of_mem member)⟩)⟩
  | connected _ _ same _ _ _ _ alone _ =>
      cases same.symm.trans current
      rw [owners_cons, if_pos ⟨owner, rfl⟩] at alone
      exact absurd alone Multiset.cons_ne_zero
  | leaving _ adapter same held alone =>
      cases same.symm.trans current
      obtain ⟨leader, none⟩ := owner_alone owner alone
      exact ⟨none, .inr (.inr ⟨adapter, leader, held⟩)⟩

theorem search_leads (led : Led session (.attempt token none ::ₘ flights))
    (current : session.token = some token) :
    session.adapter = none ∧ session.wallet.isSome ∧ owners flights token = 0 := by
  obtain ⟨none, ⟨_, noAdapter, wallet⟩ | ⟨_, other, _⟩ | ⟨_, other, _⟩⟩ := led.leads rfl current
  · exact ⟨noAdapter, wallet, none⟩
  · cases other
  · cases other

theorem connect_leads {adapter : AdapterId}
    (led : Led session (.attempt token (some adapter) ::ₘ flights))
    (current : session.token = some token) :
    session.adapter = some adapter ∧ session.wallet.isSome ∧ session.deviceId.isSome ∧
      owners flights token = 0 ∧
      ∀ flight ∈ flights, flight.adapter? = some adapter → flight.token = token := by
  obtain ⟨none, ⟨other, _⟩ | ⟨_, same, held, wallet, device, sole⟩ | ⟨_, other, _⟩⟩ :=
    led.leads rfl current
  · cases other
  · cases same
    exact ⟨held, wallet, device, none, sole⟩
  · cases other

theorem disconnect_leads {adapter : AdapterId}
    (led : Led session (.disconnect token adapter ::ₘ flights))
    (current : session.token = some token) :
    session.adapter = none ∨ session.adapter = some adapter := by
  obtain ⟨_, ⟨other, _⟩ | ⟨_, other, _⟩ | ⟨_, same, held⟩⟩ := led.leads rfl current
  · cases other
  · cases other
  · cases same
    exact held

theorem install {adapter : AdapterId} (led : Led session (.attempt token none ::ₘ flights))
    (current : session.token = some token) (located : session.deviceId.isSome)
    (fresh : ∀ flight ∈ flights, flight.adapter? ≠ some adapter) :
    Led { session with adapter := some adapter } (.attempt token (some adapter) ::ₘ flights) := by
  obtain ⟨_, wallet, none⟩ := led.search_leads current
  refine .connecting token adapter current rfl wallet located ?_ ?_
  · rw [owners_attempt, if_pos rfl, none]
    rfl
  · intro flight member mentioned
    rcases Multiset.mem_cons.mp member with rfl | member
    · rfl
    · exact absurd mentioned (fresh flight member)

theorem connect {adapter : AdapterId}
    (led : Led session (.attempt token (some adapter) ::ₘ flights))
    (current : session.token = some token) : Led { session with connecting := false } flights := by
  obtain ⟨held, wallet, device, none, sole⟩ := led.connect_leads current
  refine .connected token adapter current held rfl wallet device none ?_
  intro flight member mentioned
  have owner : flight ∈ owners flights token :=
    mem_owners.mpr ⟨member, isOwner_of_adapter mentioned, sole flight member mentioned⟩
  rw [none] at owner
  cases owner

end Led

structure Situation.Known {Bench : Type} [AdapterBench Bench] [FreshBench Bench]
    (situation : Situation Bench) : Prop where
  session : ∀ adapter, situation.connection.session.adapter = some adapter →
    adapter < FreshBench.issued situation.connection.bench
  flights : ∀ flight ∈ situation.flights, ∀ adapter, flight.adapter? = some adapter →
    adapter < FreshBench.issued situation.connection.bench

variable {Bench : Type} [AdapterBench Bench] [FreshBench Bench]

def FreshBench.evolves (before after : Bench) : Prop := issued before ≤ issued after

theorem FreshBench.serves : Serves (FreshBench.evolves : Bench → Bench → Prop) where
  trans := Nat.le_trans
  begins := FreshBench.begins
  finishes := FreshBench.finishes
  refuses {bench wallet token next error} refused := by
    have grown := (FreshBench.creates bench wallet token).1
    rw [refused] at grown
    exact grown

theorem AdapterChange.issued_le {before : Situation Bench} {bench : Bench}
    {held : Option AdapterId} (change : AdapterChange FreshBench.evolves before bench held) :
    FreshBench.issued before.connection.bench ≤ FreshBench.issued bench := by
  cases change with
  | same benchEq _ => exact Nat.le_of_eq (congrArg FreshBench.issued benchEq.symm)
  | evolved grown _ => exact grown
  | destroyed adapter benchEq _ => exact benchEq ▸ FreshBench.destroys _ adapter
  | created wallet token adapter _ _ created _ =>
      have grown := (FreshBench.creates before.connection.bench wallet token).1
      rw [created] at grown
      exact grown

namespace Move

variable {before after : Situation Bench} {shown : Option Unbacked}

theorem session_known (move : Move FreshBench.evolves before shown after) (known : before.Known)
    (adapter : AdapterId) (held : after.connection.session.adapter = some adapter) :
    adapter < FreshBench.issued after.connection.bench := by
  have grown := move.adapterChange.issued_le
  have old (same : before.connection.session.adapter = some adapter) :
      adapter < FreshBench.issued after.connection.bench :=
    Nat.lt_of_lt_of_le (known.session adapter same) grown
  rcases move.adapterChange with ⟨_, same⟩ | ⟨_, same⟩ | ⟨_, _, same⟩ |
    ⟨wallet, token, _, _, _, created, same⟩
  · exact old (same.symm.trans held)
  · exact old (same.symm.trans held)
  · rw [same] at held
    split at held
    · cases held
    · exact old held
  · cases same.symm.trans held
    have fresh := (FreshBench.creates before.connection.bench wallet token).2 adapter
    rw [created] at fresh
    exact (fresh rfl).2

theorem known (move : Move FreshBench.evolves before shown after) (known : before.Known) :
    after.Known where
  session := move.session_known known
  flights flight member adapter mentioned := by
    have grown := move.adapterChange.issued_le
    rcases move.flight_adapter member mentioned with ⟨former, flew, same⟩ | held | held
    · exact Nat.lt_of_lt_of_le (known.flights former flew adapter same) grown
    · exact Nat.lt_of_lt_of_le (known.session adapter held) grown
    · exact move.session_known known adapter held

end Move

/-- Until the session is cancelled, somebody leads it. -/
structure Situation.Sound (situation : Situation Bench) : Prop where
  live : situation.connection.cancelled = false
  issued : situation.Issued
  known : situation.Known
  led : Led situation.connection.session situation.flights

omit [AdapterBench Bench] [FreshBench Bench] in
theorem Connection.stale_of_interruption? {connection : Connection Bench} {token : Token}
    (live : connection.cancelled = false) (interrupted : (connection.interruption? token).isSome) :
    connection.session.token ≠ some token := by
  intro current
  rw [interruption?_eq_none.mpr ⟨live, current⟩] at interrupted
  cases interrupted

theorem Situation.Sound.unmentioned {connection : Connection Bench} {flights : Multiset Flight}
    {isOver : Bool} {bench : Bench} {adapter : AdapterId} {wallet : Wallet} {token : Token}
    (sound : Sound ⟨connection, flights, isOver⟩)
    (created : AdapterBench.create connection.bench wallet token = (bench, .ok adapter)) :
    ∀ flight ∈ flights, flight.adapter? ≠ some adapter := by
  intro flight member mentioned
  have old := sound.known.flights flight member adapter mentioned
  have fresh := (FreshBench.creates _ wallet token).2 adapter (congrArg Prod.snd created)
  exact absurd (Nat.lt_of_lt_of_le old fresh.1) (Nat.lt_irrefl _)

namespace Led

variable {connection : Connection Bench} {flights : Multiset Flight} {isOver : Bool}

omit [FreshBench Bench] in
theorem takeOver (issued : Situation.Issued ⟨connection, flights, isOver⟩) (wallet : Wallet)
    (deviceId : Option String) :
    Led (connection.beginAttempt wallet deviceId).1.session
      (.attempt (connection.lastToken + 1) none ::ₘ flights) := by
  rw [Connection.beginAttempt_session]
  refine .searching _ rfl rfl rfl ?_ ?_
  · rw [owners_attempt, if_pos rfl, issued.owners_fresh]
    rfl
  · intro flight member fresh
    rcases Multiset.mem_cons.mp member with rfl | member
    · rfl
    · have bound := issued.flights flight member
      rw [fresh] at bound
      exact absurd bound (Nat.not_succ_le_self _)

omit [AdapterBench Bench] [FreshBench Bench] in
theorem leave {adapter : AdapterId} (issued : Situation.Issued ⟨connection, flights, isOver⟩)
    (held : connection.session.adapter = some adapter) :
    Led connection.supersede.session
      (.disconnect (connection.lastToken + 1) adapter ::ₘ flights) := by
  refine .leaving _ _ rfl (.inr held) ?_
  rw [owners_disconnect, if_pos rfl, issued.owners_fresh]
  rfl

omit [FreshBench Bench] in
theorem left {call : DisconnectCall}
    (led : Led connection.session (.disconnect call.token call.adapter ::ₘ flights)) :
    Led (connection.disconnectAnswered call).session flights := by
  rw [Connection.disconnectAnswered_session, Connection.discard_session]
  by_cases current : connection.session.token = some call.token
  · rw [if_pos current]
    refine .idle rfl ?_ rfl
    rcases led.disconnect_leads current with none | held
    · split <;> simp_all
    · rw [if_pos held]
  · rw [if_neg current]
    exact led.discard rfl current

omit [FreshBench Bench] in
theorem lose (led : Led connection.session flights) (error : Option WalletError) :
    Led (connection.handleDisconnect error).session flights := by
  rw [Connection.handleDisconnect_session]
  split
  next => exact led
  next attended => exact .idle rfl rfl (by simp_all)

end Led

theorem Move.led {before after : Situation Bench} {shown : Option Unbacked}
    (move : Move FreshBench.evolves before shown after) (sound : before.Sound)
    (goesOn : after.connection.cancelled = false) :
    Led after.connection.session after.flights := by
  have led := sound.led
  have live := sound.live
  cases move with
  | serve | clearError | inbox _ _ =>
      exact led.of_session (by simp) (by simp) (by simp) (by simp) (by simp)
  | teardown =>
      rw [Connection.teardown_session]
      exact .idle rfl rfl rfl
  | cancel => cases goesOn
  | takeOver wallet deviceId _ => exact .takeOver sound.issued wallet deviceId
  | giveWay interrupted =>
      exact led.without fun _ => Connection.stale_of_interruption? live interrupted
  | locate deviceId current => exact led.of_session rfl rfl rfl rfl fun _ => rfl
  | install wallet current located created =>
      exact led.install (Connection.interruption?_eq_none.mp current).2 located
        fun flight member => sound.unmentioned created flight (Multiset.mem_cons_of_mem member)
  | connect current =>
      rw [Connection.publish_session, Connection.setSession_session]
      exact led.connect (Connection.interruption?_eq_none.mp current).2
  | fail error _ =>
      rw [Connection.failAttempt_session]
      exact .idle rfl rfl rfl
  | discard interrupted =>
      rw [Connection.discard_session]
      exact led.discard rfl (Connection.stale_of_interruption? live interrupted)
  | leave held => exact .leave sound.issued held
  | leaveNothing held =>
      rw [Connection.supersede_finishDisconnect_session]
      exact .idle rfl held rfl
  | left call => exact led.left
  | reset =>
      rw [Connection.reset_session]
      exact .idle rfl rfl rfl
  | lose error => exact led.lose error
  | @notice connection _ _ token notice =>
      obtain ⟨appName, session⟩ := connection.handleNotice_session token notice
      rw [session]
      exact led.of_session rfl rfl rfl rfl id
  | hold holding _ => exact led.along rfl holding
  | verify wallet answer =>
      rw [Connection.verifyAnswered_session]
      exact led.without nofun
  | operate holding _ =>
      rw [Connection.awaiting_session]
      exact led.along rfl holding
  | operated call =>
      rw [Connection.operationAnswered_session]
      exact led.without nofun

theorem Move.sound {before after : Situation Bench} {shown : Option Unbacked}
    (move : Move FreshBench.evolves before shown after) (sound : before.Sound)
    (goesOn : after.connection.cancelled = false) : after.Sound where
  live := goesOn
  issued := move.issued sound.issued
  known := move.known sound.known
  led := move.led sound goesOn

end SignerLink
