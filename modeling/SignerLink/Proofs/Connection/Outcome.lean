import SignerLink.Adapter.Scripted
import SignerLink.Proofs.Connection.Backing
import SignerLink.Proofs.Connection.Failing
import SignerLink.Proofs.Connection.Lease
import SignerLink.Transport.Inquiry
/-!
What the session holds when an attempt ends. One attempt is followed through a run, from the step
that begins it to the one that answers it, with every device that it opens on the way; all the
other calls go on meanwhile.
-/

namespace SignerLink

inductive AttemptStage where
  | asks (target : Target)
  | waits (call : AttemptCall)

/-- The moment at which an attempt has its device and asks for an adapter. -/
structure Opening (Bench : Type) where
  connection : Connection Bench
  token : Token
  wallet : Wallet
  deviceId : String

/-- The device that is wanted or, if none is, the first paired one that the wallet accepts. -/
def Inquiry.Offers (inquiry : Inquiry) (wallet : Wallet) (wanted : Option String)
    (deviceId : String) : Prop :=
  match wanted with
  | some id => deviceId = id
  | none => ∃ devices device, inquiry = .answered (.ok devices) ∧
      devices.find? wallet.accepts = some device ∧ device.id = deviceId

theorem Inquiry.offers_of_deviceId {inquiry : Inquiry} {wallet : Wallet} {deviceId : String}
    (found : inquiry.deviceId wallet = .ok (some deviceId)) :
    inquiry.Offers wallet none deviceId := by
  rcases inquiry with error | error | devices
  · cases found
  · cases found
  · have first : (devices.filter wallet.accepts).head?.map Device.id = some deviceId :=
      Except.ok.inj found
    rw [List.head?_filter] at first
    obtain ⟨device, accepted, same⟩ := Option.map_eq_some_iff.mp first
    exact ⟨devices, device, rfl, accepted, same⟩

variable {Bench : Type} [AdapterBench Bench]

namespace Opening

def adapter (opening : Opening Bench) : Except WalletError AdapterId :=
  (AdapterBench.create opening.connection.bench opening.wallet opening.token).2

def result (opening : Opening Bench) : Connection Bench × Connection.AttemptProgress :=
  opening.connection.openAdapter opening.token opening.wallet opening.deviceId

end Opening

namespace Connection

def attemptStep (connection : Connection Bench) (wallet : Wallet) :
    AttemptStage → Connection Bench × AttemptProgress
  | .asks target => connection.connect wallet target
  | .waits call => connection.resumeAttempt call

omit [AdapterBench Bench] in
def searchOpening? (connection : Connection Bench) (token : Token) (wallet : Wallet)
    (found : DeviceSearch) : Option (Opening Bench) :=
  match connection.interruption? token, found with
  | none, .ok (some deviceId) => some ⟨connection, token, wallet, deviceId⟩
  | _, _ => none

/-- Where the step opens a device, if it does. -/
def opening? (connection : Connection Bench) (wallet : Wallet) :
    AttemptStage → Option (Opening Bench)
  | .asks target =>
      if connection.cancelled then none
      else
        match target with
        | .device id =>
            some ⟨(connection.beginAttempt wallet (some id)).1, connection.lastToken + 1, wallet,
              id⟩
        | .search found milliseconds =>
            if milliseconds = 0 then
              (connection.beginAttempt wallet none).1.searchOpening? (connection.lastToken + 1)
                wallet found
            else none
  | .waits (.searching token owner found) => connection.searchOpening? token owner found
  | .waits (.connecting _ _ _ _) => none

omit [AdapterBench Bench] in
theorem searchOpening?_eq_some {connection : Connection Bench} {token : Token} {wallet : Wallet}
    {found : DeviceSearch} {opening : Opening Bench}
    (opens : connection.searchOpening? token wallet found = some opening) :
    connection.interruption? token = none ∧ found = .ok (some opening.deviceId) ∧
      opening = ⟨connection, token, wallet, opening.deviceId⟩ := by
  simp only [searchOpening?] at opens
  split at opens
  next deviceId leads =>
    cases opens
    exact ⟨leads, rfl, rfl⟩
  next => cases opens

theorem searched_of_opening {connection : Connection Bench} {token : Token} {wallet : Wallet}
    {found : DeviceSearch} {opening : Opening Bench}
    (opens : connection.searchOpening? token wallet found = some opening) :
    connection.searched token wallet found = opening.result := by
  obtain ⟨leads, rfl, same⟩ := searchOpening?_eq_some opens
  simp only [searched, leads]
  rw [same]
  rfl

/-- A step that opens a device does nothing else. -/
theorem attemptStep_of_opening {connection : Connection Bench} {wallet : Wallet}
    {stage : AttemptStage} {opening : Opening Bench}
    (opens : connection.opening? wallet stage = some opening) :
    connection.attemptStep wallet stage = opening.result := by
  rcases stage with (id | ⟨found, milliseconds⟩) | (_ | _)
  · simp only [opening?, attemptStep, connect] at opens ⊢
    split at opens
    next => cases opens
    next live =>
      cases opens
      simp only [live]
      rfl
  · simp only [opening?, attemptStep, connect] at opens ⊢
    split at opens
    next => cases opens
    next live =>
      split at opens
      next now =>
        simp only [live, now]
        exact searched_of_opening opens
      next => cases opens
  · exact searched_of_opening opens
  · cases opens

structure IsConnectedBy (connection : Connection Bench) (token : Token) (wallet : Wallet)
    (deviceId : String) (adapter : AdapterId) : Prop where
  shown : connection.state = .connected
  idle : connection.session.connecting = false
  token : connection.session.token = some token
  adapter : connection.session.adapter = some adapter
  wallet : connection.session.wallet = some wallet
  device : connection.session.deviceId = some deviceId

/-- Nothing is held, nobody connects, and subscribers see the failure. -/
structure HasFailed (connection : Connection Bench) (error : WalletError) : Prop where
  shown : connection.state.alike (.ofError error)
  idle : connection.session.connecting = false
  token : connection.session.token = none
  adapter : connection.session.adapter = none

variable {connection : Connection Bench} {token : Token} {wallet : Wallet} {deviceId : String}

/-! How an attempt fails. -/

def FailsCleanly (result : Connection Bench × AttemptProgress) : Prop :=
  ∀ error, result.2 = .finished (.failed error) → result.1.HasFailed error

omit [AdapterBench Bench] in
theorem FailsCleanly.waiting (call : AttemptCall) (milliseconds : Nat) :
    FailsCleanly (connection, .waiting call milliseconds) := by
  intro error ends
  cases ends

omit [AdapterBench Bench] in
theorem FailsCleanly.interrupted {outcome : ConnectOutcome} {next : Connection Bench}
    (given : connection.interruption? token = some outcome) :
    FailsCleanly (next, .finished outcome) := by
  intro error ends
  cases ends
  exact absurd given interruption?_ne_failed

theorem failAttempt_failsCleanly (connection : Connection Bench) (error : WalletError) :
    FailsCleanly ((connection.failAttempt error).1,
      .finished (connection.failAttempt error).2) := by
  intro same ends
  cases ends
  constructor
  case shown =>
    simp only [failAttempt, ← StateEvent.target_ofError]
    exact publish_alike _ (.inl rfl)
  all_goals rw [failAttempt_session]

theorem connectAnswered_failsCleanly (adapter : AdapterId) (answer : AdapterAnswer) :
    FailsCleanly ((connection.connectAnswered token wallet adapter answer).1,
      .finished (connection.connectAnswered token wallet adapter answer).2) := by
  simp only [connectAnswered]
  split
  next outcome given => exact .interrupted given
  next =>
    split
    next => exact failAttempt_failsCleanly _ _
    next =>
      intro error ends
      cases ends

theorem openAdapter_cases (connection : Connection Bench) (token : Token) (wallet : Wallet)
    (deviceId : String) :
    (∃ (before : Connection Bench) (error : WalletError),
      connection.openAdapter token wallet deviceId =
        ((before.failAttempt error).1, .finished (before.failAttempt error).2)) ∨
    ∃ (opened : Connection Bench) (adapter : AdapterId),
      (AdapterBench.create connection.bench wallet token).2 = .ok adapter ∧
      opened.session =
        { connection.session with deviceId := some deviceId, adapter := some adapter } ∧
      ((∃ milliseconds, connection.openAdapter token wallet deviceId =
          (opened, .waiting (.connecting token wallet deviceId adapter) milliseconds)) ∨
        ∃ answer, connection.openAdapter token wallet deviceId =
          ((opened.connectAnswered token wallet adapter answer).1,
            .finished (opened.connectAnswered token wallet adapter answer).2)) := by
  simp only [openAdapter]
  split
  next bench error _ => exact .inl ⟨_, error, rfl⟩
  next bench adapter created =>
    generalize placed : setSession { setSession connection _ with bench := bench } _ = next
    have session : next.session =
        { connection.session with deviceId := some deviceId, adapter := some adapter } := by
      rw [← placed]
      rfl
    have asked := next.ask_session adapter (.connect deviceId)
    rcases reached : next.ask adapter (.connect deviceId) with ⟨opened, reply⟩
    rw [reached] at asked
    refine .inr ⟨opened, adapter, congrArg Prod.snd created, asked.trans session, ?_⟩
    cases reply with
    | later milliseconds => exact .inl ⟨milliseconds, rfl⟩
    | now answer => exact .inr ⟨answer, rfl⟩

theorem openAdapter_failsCleanly :
    FailsCleanly (connection.openAdapter token wallet deviceId) := by
  obtain ⟨before, error, failed⟩ |
      ⟨opened, adapter, _, _, ⟨milliseconds, waits⟩ | ⟨answer, ends⟩⟩ :=
    connection.openAdapter_cases token wallet deviceId
  · rw [failed]
    exact failAttempt_failsCleanly _ _
  · rw [waits]
    exact .waiting _ _
  · rw [ends]
    exact connectAnswered_failsCleanly _ _

theorem searched_failsCleanly (found : DeviceSearch) :
    FailsCleanly (connection.searched token wallet found) := by
  simp only [searched]
  split
  next outcome given => exact .interrupted given
  next =>
    split
    next => exact openAdapter_failsCleanly
    next => exact failAttempt_failsCleanly _ _
    next => exact failAttempt_failsCleanly _ _

theorem attemptStep_failsCleanly (connection : Connection Bench) (wallet : Wallet)
    (stage : AttemptStage) : FailsCleanly (connection.attemptStep wallet stage) := by
  rcases stage with target | (⟨token, owner, found⟩ | ⟨token, owner, deviceId, adapter⟩)
  · simp only [attemptStep, connect]
    split
    next =>
      intro error ends
      cases ends
    next =>
      split
      next => exact openAdapter_failsCleanly
      next =>
        split
        next => exact searched_failsCleanly _
        next => exact .waiting _ _
  · exact searched_failsCleanly found
  · exact connectAnswered_failsCleanly adapter _

/-! How an attempt connects. -/

theorem connectAnswered_leads {adapter : AdapterId} {answer : AdapterAnswer}
    (connected : (connection.connectAnswered token wallet adapter answer).2 = .connected) :
    connection.cancelled = false ∧ connection.session.token = some token := by
  simp only [connectAnswered] at connected
  split at connected
  next outcome given => exact absurd connected (interruption?_ne_connected given)
  next leads => exact interruption?_eq_none.mp leads

theorem connectAnswered_isConnectedBy {adapter : AdapterId} {answer : AdapterAnswer}
    (connected : (connection.connectAnswered token wallet adapter answer).2 = .connected)
    (held : connection.session.adapter = some adapter)
    (owner : connection.session.wallet = some wallet)
    (located : connection.session.deviceId = some deviceId) :
    (connection.connectAnswered token wallet adapter answer).1.IsConnectedBy token wallet deviceId
      adapter := by
  have current := (connectAnswered_leads connected).2
  have leads := interruption?_eq_none.mpr (connectAnswered_leads connected)
  simp only [connectAnswered, leads] at connected ⊢
  cases answer with
  | error error => cases connected
  | ok _ =>
      constructor
      case shown => exact publish_state _ (.inr (by simp)) rfl
      all_goals simp [*]

theorem resumeConnecting_leads {adapter : AdapterId}
    (connected : (connection.resumeAttempt (.connecting token wallet deviceId adapter)).2 =
      .finished .connected) :
    connection.cancelled = false ∧ connection.session.token = some token := by
  obtain ⟨live, current⟩ := connectAnswered_leads (Progress.finished.inj connected)
  exact ⟨by simpa using live, by simpa using current⟩

theorem resumeConnecting_isConnectedBy {adapter : AdapterId}
    (connected : (connection.resumeAttempt (.connecting token wallet deviceId adapter)).2 =
      .finished .connected)
    (held : connection.session.adapter = some adapter)
    (owner : connection.session.wallet = some wallet)
    (located : connection.session.deviceId = some deviceId) :
    (connection.resumeAttempt (.connecting token wallet deviceId adapter)).1.IsConnectedBy token
      wallet deviceId adapter := by
  refine connectAnswered_isConnectedBy (Progress.finished.inj connected) ?_ ?_ ?_
  · simpa using held
  · simpa using owner
  · simpa using located

structure Opens (opening : Opening Bench) : Prop where
  waiting : ∀ call milliseconds, opening.result.2 = .waiting call milliseconds →
    ∃ adapter, opening.adapter = .ok adapter ∧
      call = .connecting opening.token opening.wallet opening.deviceId adapter
  connected : opening.result.2 = .finished .connected → ∃ adapter, opening.adapter = .ok adapter ∧
    opening.result.1.IsConnectedBy opening.token opening.wallet opening.deviceId adapter

theorem openAdapter_opens (owner : connection.session.wallet = some wallet) :
    Opens ⟨connection, token, wallet, deviceId⟩ := by
  obtain ⟨before, error, failed⟩ |
      ⟨opened, adapter, created, session, ⟨milliseconds, waits⟩ | ⟨answer, ends⟩⟩ :=
    connection.openAdapter_cases token wallet deviceId
  · constructor
    all_goals simp only [Opening.result, failed]
    · nofun
    · nofun
  · constructor
    all_goals simp only [Opening.result, waits]
    · rintro call other ⟨⟩
      exact ⟨adapter, created, rfl⟩
    · nofun
  · constructor
    all_goals simp only [Opening.result, ends]
    · nofun
    · intro connected
      refine ⟨adapter, created, ?_⟩
      exact connectAnswered_isConnectedBy (Progress.finished.inj connected) (by rw [session])
        (by rw [session, owner]) (by rw [session])

inductive Searches (inquiry : Inquiry) (token : Token) (wallet : Wallet)
    (wanted : Option String) :
    Option (Opening Bench) → Connection Bench × AttemptProgress → Prop where
  | opens {before : Connection Bench} {deviceId : String} :
      before.session.wallet = some wallet → inquiry.Offers wallet wanted deviceId →
      Searches inquiry token wallet wanted (some ⟨before, token, wallet, deviceId⟩)
        (before.openAdapter token wallet deviceId)
  | waits {after : Connection Bench} (milliseconds : Nat) : wanted = none →
      Searches inquiry token wallet wanted none
        (after, .waiting (.searching token wallet (inquiry.deviceId wallet)) milliseconds)
  | ends {after : Connection Bench} {outcome : ConnectOutcome} : outcome ≠ .connected →
      Searches inquiry token wallet wanted none (after, .finished outcome)

theorem searched_searches (inquiry : Inquiry)
    (owner : connection.session.token = some token → connection.session.wallet = some wallet) :
    Searches inquiry token wallet none
      (connection.searchOpening? token wallet (inquiry.deviceId wallet))
      (connection.searched token wallet (inquiry.deviceId wallet)) := by
  simp only [searchOpening?, searched]
  cases given : connection.interruption? token with
  | some outcome => exact .ends (interruption?_ne_connected given)
  | none =>
      have owned := owner (interruption?_eq_none.mp given).2
      rcases found : inquiry.deviceId wallet with error | _ | deviceId
      · exact .ends fun same => by cases same
      · exact .ends fun same => by cases same
      · exact .opens owned (Inquiry.offers_of_deviceId found)

theorem connect_searches (inquiry : Inquiry) (wallet : Wallet) (wanted : Option String)
    (milliseconds : Nat) :
    Searches inquiry (connection.lastToken + 1) wallet wanted
      (connection.opening? wallet
        (.asks (.wanted wanted (inquiry.deviceId wallet) milliseconds)))
      (connection.connect wallet (.wanted wanted (inquiry.deviceId wallet) milliseconds)) := by
  simp only [opening?, connect]
  split
  next => exact .ends (by simp)
  next =>
    cases wanted with
    | some id => exact .opens (by simp) rfl
    | none =>
        simp only [Target.wanted]
        split
        next => exact searched_searches inquiry fun _ => by simp
        next => exact .waits milliseconds rfl

end Connection

inductive AttemptCall.Follows (inquiry : Inquiry) (token : Token) (wallet : Wallet)
    (wanted : Option String) : List (Opening Bench) → AttemptCall → Prop where
  | searching : wanted = none →
      Follows inquiry token wallet wanted [] (.searching token wallet (inquiry.deviceId wallet))
  | connecting {connection : Connection Bench} {deviceId : String} {adapter : AdapterId} :
      inquiry.Offers wallet wanted deviceId →
      Opening.adapter ⟨connection, token, wallet, deviceId⟩ = .ok adapter →
      Follows inquiry token wallet wanted [⟨connection, token, wallet, deviceId⟩]
        (.connecting token wallet deviceId adapter)

/-- An attempt has connected the session: it has opened one device, the one that was to be found,
with an adapter created under its token, and this is the session's adapter now. -/
def Connection.Achieves (after : Connection Bench) (inquiry : Inquiry) (token : Token)
    (wallet : Wallet) (wanted : Option String) (openings : List (Opening Bench)) : Prop :=
  ∃ opening adapter, openings = [opening] ∧ opening.token = token ∧ opening.wallet = wallet ∧
    inquiry.Offers wallet wanted opening.deviceId ∧ opening.adapter = .ok adapter ∧
    after.IsConnectedBy token wallet opening.deviceId adapter

namespace Connection.Searches

variable {inquiry : Inquiry} {token : Token} {wallet : Wallet} {wanted : Option String}
  {opened : Option (Opening Bench)} {result : Connection Bench × Connection.AttemptProgress}

theorem waiting (searches : Searches inquiry token wallet wanted opened result)
    {call : AttemptCall} {milliseconds : Nat} (waits : result.2 = .waiting call milliseconds) :
    call.Follows inquiry token wallet wanted opened.toList := by
  cases searches with
  | opens owner offers =>
      obtain ⟨adapter, created, rfl⟩ := (openAdapter_opens owner).waiting _ _ waits
      exact .connecting offers created
  | waits _ free =>
      cases waits
      exact .searching free
  | ends _ => cases waits

theorem connected (searches : Searches inquiry token wallet wanted opened result)
    (connected : result.2 = .finished .connected) :
    result.1.Achieves inquiry token wallet wanted opened.toList := by
  cases searches with
  | opens owner offers =>
      obtain ⟨adapter, created, holds⟩ := (openAdapter_opens owner).connected connected
      exact ⟨_, adapter, rfl, rfl, rfl, offers, created, holds⟩
  | waits _ _ => cases connected
  | ends other => exact absurd (Progress.finished.inj connected) other

end Connection.Searches

/-- Who waits for an attempt: a caller who wants to connect, or one who wants to use the device
and finds that it has to be connected first. -/
inductive AttemptCaller where
  | connects
  | readies (named : Option String)

namespace AttemptCaller

def call (wallet : Wallet) : AttemptCaller → AttemptCall → ConnectionCall
  | .connects, call => .attempt call
  | .readies _, call => .readiness (.attempting wallet call)

def Wants (wallet : Wallet) (wanted : Option String) (connection : Connection Bench) :
    AttemptCaller → Prop
  | .connects => True
  | .readies named => connection.readiness wallet named = .wanting wanted

def request (wallet : Wallet) (wanted : Option String) (found : DeviceSearch)
    (milliseconds : Nat) : AttemptCaller → ConnectionRequest
  | .connects => .connect wallet (.wanted wanted found milliseconds)
  | .readies named => .makeReady wallet named found milliseconds

theorem call_flight (caller : AttemptCaller) (wallet : Wallet) (call : AttemptCall) :
    (caller.call wallet call).flight = call.flight := by
  cases caller <;> rfl

end AttemptCaller

namespace Run

variable {evolves : Bench → Bench → Prop} {caller : AttemptCaller} {wallet : Wallet}
  {wanted : Option String} {inquiry : Inquiry} {first run : Run Bench} {stage : AttemptStage}
  {openings : List (Opening Bench)}

/-- One attempt, begun for a caller of the first run, with the devices that it has opened. The run
that it has come to holds all the other calls. -/
inductive Attempting (evolves : Bench → Bench → Prop) (caller : AttemptCaller) (wallet : Wallet)
    (wanted : Option String) (inquiry : Inquiry) (first : Run Bench) :
    Run Bench → AttemptStage → List (Opening Bench) → Prop where
  | asked (milliseconds : Nat) : caller.Wants wallet wanted first.connection →
      Attempting evolves caller wallet wanted inquiry first first
        (.asks (.wanted wanted (inquiry.deviceId wallet) milliseconds)) []
  | goesOn {run : Run Bench} {stage : AttemptStage} {openings : List (Opening Bench)}
      {call : AttemptCall} {milliseconds : Nat} :
      Attempting evolves caller wallet wanted inquiry first run stage openings →
      (run.connection.attemptStep wallet stage).2 = .waiting call milliseconds →
      Attempting evolves caller wallet wanted inquiry first
        { run with connection := (run.connection.attemptStep wallet stage).1 } (.waits call)
        (openings ++ (run.connection.opening? wallet stage).toList)
  | meanwhile {before after : Run Bench} {call : AttemptCall} {openings : List (Opening Bench)} :
      Attempting evolves caller wallet wanted inquiry first before (.waits call) openings →
      Step evolves before after →
      Attempting evolves caller wallet wanted inquiry first after (.waits call) openings

omit [AdapterBench Bench] in
def whole (run : Run Bench) (caller : AttemptCaller) (wallet : Wallet) : AttemptStage → Run Bench
  | .asks _ => run
  | .waits call => run.along (caller.call wallet call)

omit [AdapterBench Bench] in
theorem whole_flights (run : Run Bench) (caller : AttemptCaller) (wallet : Wallet)
    (call : AttemptCall) :
    (run.whole caller wallet (.waits call)).situation.flights =
      call.flight ::ₘ run.situation.flights := by
  simp only [whole, situation, along, Multiset.map_cons, caller.call_flight]

theorem begin_request {call : AttemptCall} {milliseconds delay : Nat} {found : DeviceSearch}
    (wants : caller.Wants wallet wanted run.connection)
    (waits : (run.connection.connect wallet (.wanted wanted found delay)).2 =
      .waiting call milliseconds) :
    run.begin (caller.request wallet wanted found delay) =
      whole { run with
        connection := (run.connection.connect wallet (.wanted wanted found delay)).1 }
        caller wallet (.waits call) := by
  cases caller with
  | connects =>
      simp only [AttemptCaller.request, Run.begin, Connection.begin, Prod.map_fst, Prod.map_snd,
        id_eq, waits, Progress.map, Progress.calls, Multiset.singleton_add, whole, along,
        AttemptCaller.call]
  | readies named =>
      have ready : run.connection.readiness wallet named = .wanting wanted := wants
      simp only [AttemptCaller.request, Run.begin, Connection.begin, Connection.makeReady, ready,
        Connection.connectReady, waits, Connection.verifyConnected, Prod.map_fst, Prod.map_snd,
        id_eq, Progress.map, Progress.calls, Multiset.singleton_add, whole, along,
        AttemptCaller.call]

theorem step_resumed {call next : AttemptCall} {milliseconds : Nat}
    (waits : (run.connection.resumeAttempt call).2 = .waiting next milliseconds) :
    Step evolves (run.whole caller wallet (.waits call))
      (whole { run with connection := (run.connection.resumeAttempt call).1 }
        caller wallet (.waits next)) := by
  have resumed : Step evolves (run.whole caller wallet (.waits call)) _ :=
    .resume run.connection (caller.call wallet call) run.calls run.isOver
  cases caller with
  | connects =>
      simp only [AttemptCaller.call, Connection.resume, Prod.map_fst, Prod.map_snd, id_eq, waits,
        Progress.map, Progress.calls, Multiset.singleton_add] at resumed
      exact resumed
  | readies named =>
      simp only [AttemptCaller.call, Connection.resume, Connection.resumeReadiness, waits,
        Connection.verifyConnected, Prod.map_fst, Prod.map_snd, id_eq, Progress.map,
        Progress.calls, Multiset.singleton_add] at resumed
      exact resumed

theorem Attempting.steps
    (attempting : Attempting evolves caller wallet wanted inquiry first run stage openings) :
    Steps evolves first (run.whole caller wallet stage) := by
  induction attempting with
  | asked _ _ => exact .refl
  | @goesOn run stage openings call milliseconds earlier waits ih =>
      cases stage with
      | asks target =>
          cases earlier with
          | asked delay wants =>
              have begun : Step evolves first
                  (first.begin (caller.request wallet wanted (inquiry.deviceId wallet) delay)) :=
                .begin first _
              exact .single (begin_request wants waits ▸ begun)
      | waits former => exact ih.tail (step_resumed waits)
  | meanwhile _ step ih => exact ih.tail (step.along _)

variable [FreshBench Bench]

namespace Attempting

variable (attempting :
  Attempting FreshBench.evolves caller wallet wanted inquiry first run stage openings)

include attempting

theorem reached (reachable : first.Reachable FreshBench.evolves) :
    (run.whole caller wallet stage).Reachable FreshBench.evolves :=
  reachable.imp fun _ steps => steps.trans attempting.steps

theorem leases (reachable : first.Reachable FreshBench.evolves) (call : AttemptCall)
    (waiting : stage = .waits call) :
    call.lease.IsFor wallet wanted ∧ call.lease.Stands run.connection run.situation.flights := by
  induction attempting generalizing call with
  | asked _ _ => cases waiting
  | @goesOn run stage openings next milliseconds earlier waits ih =>
      cases waiting
      cases stage with
      | asks target =>
          cases earlier with
          | asked delay wants =>
              refine (Connection.connect_attempted ?_ ?_).waiting next milliseconds waits
              · intro member
                have issued := (reachable.allocated FreshBench.serves).flights _ member
                exact Nat.not_succ_le_self _ issued
              · rintro id rfl
                rfl
      | waits former =>
          obtain ⟨isFor, stands⟩ := ih former rfl
          exact (Connection.resumeAttempt_attempted isFor stands).waiting next milliseconds waits
  | @meanwhile before after other openings _ step ih =>
      cases waiting
      obtain ⟨isFor, stands⟩ := ih other rfl
      exact ⟨isFor, step.stands FreshBench.serves stands⟩

theorem follows (reachable : first.Reachable FreshBench.evolves) (call : AttemptCall)
    (waiting : stage = .waits call) :
    call.Follows inquiry (first.connection.lastToken + 1) wallet wanted openings := by
  induction attempting generalizing call with
  | asked _ _ => cases waiting
  | @goesOn run stage openings next milliseconds earlier waits ih =>
      cases waiting
      cases stage with
      | asks target =>
          cases earlier with
          | asked delay wants =>
              exact (Connection.connect_searches inquiry wallet wanted delay).waiting waits
      | waits former =>
          obtain ⟨isFor, stands⟩ := earlier.leases reachable former rfl
          cases ih former rfl with
          | searching free =>
              cases free
              exact (Connection.searched_searches inquiry
                fun current => (stands.session current).1).waiting waits
          | connecting _ _ => cases waits
  | meanwhile _ _ ih => exact ih call waiting

theorem achieves (reachable : first.Reachable FreshBench.evolves)
    (connected : (run.connection.attemptStep wallet stage).2 = .finished .connected) :
    (run.connection.attemptStep wallet stage).1.Achieves inquiry (first.connection.lastToken + 1)
      wallet wanted (openings ++ (run.connection.opening? wallet stage).toList) := by
  cases stage with
  | asks target =>
      cases attempting with
      | asked delay wants =>
          exact (Connection.connect_searches inquiry wallet wanted delay).connected connected
  | waits call =>
      obtain ⟨isFor, stands⟩ := attempting.leases reachable call rfl
      cases attempting.follows reachable call rfl with
      | searching free =>
          cases free
          exact (Connection.searched_searches inquiry
            fun current => (stands.session current).1).connected connected
      | @connecting before deviceId adapter offers created =>
          obtain ⟨live, current⟩ := Connection.resumeConnecting_leads connected
          have led := ((attempting.reached reachable).sound live).led
          rw [whole_flights] at led
          obtain ⟨owner, located, _⟩ := stands.session current
          have held := (led.connect_leads current).1
          refine ⟨_, adapter, rfl, rfl, rfl, offers, created, ?_⟩
          exact Connection.resumeConnecting_isConnectedBy connected held owner located

end Attempting

/-- Whatever happens meanwhile, the session agrees with an attempt at the moment when it ends. If
the attempt has connected, the session shows this, and holds the one adapter that the attempt has
created under its token, on the device that was asked for or else on the first paired one that the
wallet accepted. If it has failed, nothing is held and the failure is shown. -/
theorem attempt_ends_as_told (reachable : first.Reachable FreshBench.evolves)
    (attempting :
      Attempting FreshBench.evolves caller wallet wanted inquiry first run stage openings)
    {outcome : ConnectOutcome}
    (ended : (run.connection.attemptStep wallet stage).2 = .finished outcome) :
    (outcome = .connected →
      (run.connection.attemptStep wallet stage).1.Achieves inquiry
        (first.connection.lastToken + 1) wallet wanted
        (openings ++ (run.connection.opening? wallet stage).toList)) ∧
    ∀ error, outcome = .failed error →
      (run.connection.attemptStep wallet stage).1.HasFailed error := by
  constructor
  · rintro rfl
    exact attempting.achieves reachable ended
  · rintro error rfl
    exact run.connection.attemptStep_failsCleanly wallet stage error ended

def slowToConnect : Run ScriptedBench := start { scripts := [{ connectDelay := 10 }] }

def ledgerSecond : Inquiry := .answered (.ok [⟨21324, 1, none⟩, ⟨11415, 2, none⟩, ⟨11415, 3, none⟩])

def lockedOnConnecting : Run ScriptedBench :=
  let searching := (slowToConnect.connection.attemptStep .ledger
    (.asks (.wanted none (ledgerSecond.deviceId .ledger) 5))).1
  let connecting := (searching.attemptStep .ledger
    (.waits (.searching 1 .ledger (ledgerSecond.deviceId .ledger)))).1
  react { slowToConnect with connection := connecting } (.noticed 1 { kind := .deviceLocked })

def lockedStage : AttemptStage := .waits (.connecting 1 .ledger "2" 0)

theorem attempt_ends_as_told_lockedOnConnecting :
    ∃ openings, Attempting FreshBench.evolves (.readies none) .ledger none ledgerSecond
        slowToConnect lockedOnConnecting lockedStage openings ∧
      lockedOnConnecting.connection.state.isFailed = true ∧
      (lockedOnConnecting.connection.attemptStep .ledger lockedStage).2 = .finished .connected ∧
      (lockedOnConnecting.connection.attemptStep .ledger lockedStage).1.Achieves ledgerSecond 1
        .ledger none
        (openings ++ (lockedOnConnecting.connection.opening? .ledger lockedStage).toList) := by
  have attempting : Attempting FreshBench.evolves (.readies none) .ledger none ledgerSecond
      slowToConnect lockedOnConnecting lockedStage _ :=
    .meanwhile (.goesOn (.goesOn (.asked 5 rfl) rfl) rfl) (.react _ _)
  have reachable : slowToConnect.Reachable FreshBench.evolves := ⟨_, .refl⟩
  have ended := attempt_ends_as_told reachable attempting rfl
  exact ⟨_, attempting, rfl, rfl, ended.1 rfl⟩

end Run

end SignerLink
