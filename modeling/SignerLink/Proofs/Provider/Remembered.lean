import SignerLink.Proofs.Connection.Verification
import SignerLink.Proofs.Provider.Release
import SignerLink.Proofs.Provider.Simulation
/-!
The device that a session remembers. A retry, or a caller who names no device, has an attempt go
to the device that the session had last. Which wallet that device was recorded for is told by the
history of the session.
-/

namespace SignerLink

namespace Session

def owned? (session : Session) : Option (Wallet × String) :=
  match session.wallet, session.deviceId with
  | some wallet, some deviceId => some (wallet, deviceId)
  | _, _ => none

/-- A device is recorded for a wallet only. -/
def IsAttributed (session : Session) : Prop := session.deviceId.isSome → session.wallet.isSome

variable {session next : Session}

theorem IsAttributed.of_same (attributed : session.IsAttributed)
    (wallet : next.wallet = session.wallet) (device : next.deviceId = session.deviceId) :
    next.IsAttributed := by
  rw [IsAttributed, wallet, device]
  exact attributed

theorem IsAttributed.owner {deviceId : String} (attributed : session.IsAttributed)
    (located : session.deviceId = some deviceId) :
    ∃ owner, session.wallet = some owner ∧ session.owned? = some (owner, deviceId) := by
  obtain ⟨owner, owned⟩ := Option.isSome_iff_exists.mp (attributed (by rw [located]; rfl))
  exact ⟨owner, owned, by simp only [owned?, owned, located]⟩

end Session

variable {Bench : Type} [AdapterBench Bench]

theorem Connection.discard_isAttributed {connection : Connection Bench} (adapter : AdapterId)
    (attributed : connection.session.IsAttributed) :
    (connection.discard adapter).session.IsAttributed := by
  rw [discard_session]
  split
  · exact attributed.of_same rfl rfl
  · exact attributed

section

variable [FreshBench Bench]

theorem Move.attributed {before after : Situation Bench} {shown : Option Unbacked}
    (move : Move FreshBench.evolves before shown after) (sound : before.Sound)
    (attributed : before.connection.session.IsAttributed) :
    after.connection.session.IsAttributed := by
  cases move with
  | serve | clearError | inbox _ _ | giveWay _ | hold _ _ | verify _ _ | operated _ | cancel
  | install _ _ _ _ | connect _ | fail _ _ | leave _ | teardown =>
      exact attributed.of_same (by simp) (by simp)
  | operate _ _ =>
      rw [Connection.awaiting_session]
      exact attributed
  | takeOver wallet deviceId _ =>
      rw [Connection.beginAttempt_session]
      exact fun _ => rfl
  | locate deviceId leads =>
      have current := (Connection.interruption?_eq_none.mp leads).2
      exact fun _ => (sound.led.search_leads current).2.1
  | discard _ => exact Connection.discard_isAttributed _ attributed
  | leaveNothing released =>
      rw [Connection.supersede_finishDisconnect_session]
      nofun
  | left call =>
      rw [Connection.disconnectAnswered_session]
      split
      · nofun
      · exact Connection.discard_isAttributed _ attributed
  | reset =>
      rw [Connection.reset_session]
      nofun
  | lose error =>
      rw [Connection.handleDisconnect_session]
      split
      · exact attributed
      · exact attributed.of_same rfl rfl
  | @notice connection _ _ token notice =>
      obtain ⟨appName, session⟩ := connection.handleNotice_session token notice
      exact attributed.of_same (by simp [session]) (by simp [session])

theorem Run.Reachable.attributed {run : Run Bench} (reachable : run.Reachable FreshBench.evolves)
    (live : run.connection.cancelled = false) : run.connection.session.IsAttributed := by
  obtain ⟨bench, steps⟩ := reachable
  refine (steps.keep (fun situation => situation.connection.cancelled = false →
    situation.Sound ∧ situation.connection.session.IsAttributed) FreshBench.serves ?_ ?_ live).2
  · intro before shown after move kept later
    obtain ⟨sound, attributed⟩ := kept (move.live_of later)
    exact ⟨move.sound sound later, move.attributed sound attributed⟩
  · exact fun _ => ⟨start_sound bench, nofun⟩

end

namespace Provider

variable {evolves : Bench → Bench → Prop} {provider : Provider Bench} {request : Request}
  {wallet : Wallet} {deviceId : Option String} {history : List (Wallet × String)}

def attemptFor? (provider : Provider Bench) (wallet : Wallet) (wanted : Option String) :
    Option (Wallet × Option String) :=
  match provider.connection.readiness wallet wanted with
  | .wanting deviceId => some (wallet, deviceId)
  | .refused | .held _ _ _ => none

/-- The attempt that a request begins without naming a device: for a wallet, and for the device
that it is to go to or, if there is none here, for one that is searched for. -/
def unnamedAttempt? (provider : Provider Bench) : Request → Option (Wallet × Option String)
  | .retry =>
      provider.connection.session.wallet.bind fun wallet =>
        provider.attemptFor? wallet provider.connection.session.deviceId
  | .makeReady wallet none =>
      (wallet <|> provider.wallet?).bind fun wallet => provider.attemptFor? wallet none
  | _ => none

def attempted (provider : Provider Bench) (wallet : Wallet) (deviceId : Option String) :
    Provider Bench × Step :=
  let (asked, target) := provider.target wallet deviceId
  let (connection, progress) := asked.connection.connectReady wallet target
  (asked.setConnection connection, progress.map .readiness .answered)

theorem attemptFor?_eq_some {wanted : Option String} {attempt : Wallet × Option String}
    (begins : provider.attemptFor? wallet wanted = some attempt) :
    attempt = (wallet, wanted <|> provider.connection.session.deviceId) ∧
      provider.isCancelled = false ∧
      provider.makeReady wallet wanted = provider.attempted attempt.1 attempt.2 := by
  simp only [attemptFor?] at begins
  split at begins
  next deviceId ready =>
    cases begins
    obtain ⟨live, rfl⟩ := Connection.readiness_wanting ready
    refine ⟨rfl, live, ?_⟩
    simp only [makeReady, ready, attempted]
  next => cases begins
  next => cases begins

theorem unnamedAttempt?_eq_some
    (begins : provider.unnamedAttempt? request = some (wallet, deviceId)) :
    provider.isCancelled = false ∧ deviceId = provider.connection.session.deviceId ∧
      provider.begin request = provider.attempted wallet deviceId ∧
      (request = .retry → provider.connection.session.wallet = some wallet) := by
  cases request with
  | retry =>
      obtain ⟨owner, owned, attempt⟩ := Option.bind_eq_some_iff.mp begins
      obtain ⟨same, live, made⟩ := attemptFor?_eq_some attempt
      cases same
      refine ⟨live, ?_, ?_, fun _ => owned⟩
      · cases provider.connection.session.deviceId <;> rfl
      · simp only [begin, retry, owned]
        exact made
  | makeReady asked named =>
      cases named with
      | some id => cases begins
      | none =>
          obtain ⟨chosen, meant, attempt⟩ := Option.bind_eq_some_iff.mp begins
          obtain ⟨same, live, made⟩ := attemptFor?_eq_some attempt
          cases same
          refine ⟨live, rfl, ?_, fun again => by cases again⟩
          simp only [begin, meant]
          exact made
  | connect _ _ | disconnect | operate _ | checkPermission _ | requestPermission _
  | selectAccount _ | plugEvent _ | shutdown | askHost _ | sleep _ | join _ => cases begins

/-- The wallets and devices that the session has held together, as the provider came to be. -/
inductive Records (evolves : Bench → Bench → Prop) :
    List (Wallet × String) → Provider Bench → Prop where
  | new {first : Provider Bench} : first.IsNew → Records evolves [] first
  | after {history : List (Wallet × String)} {before after : Provider Bench} :
      Records evolves history before → Transition evolves before after →
      Records evolves (history ++ after.connection.session.owned?.toList) after

theorem Records.reachable (records : Records evolves history provider) :
    provider.Reachable evolves := by
  induction records with
  | @new first new => exact ⟨first, new, .refl⟩
  | after _ transition ih =>
      obtain ⟨first, new, run⟩ := ih
      exact ⟨first, new, run.tail transition⟩

theorem Reachable.exists_records (reachable : provider.Reachable evolves) :
    ∃ history, Records evolves history provider := by
  obtain ⟨first, new, run⟩ := reachable
  induction run with
  | refl => exact ⟨[], .new new⟩
  | tail _ transition ih =>
      obtain ⟨history, records⟩ := ih
      exact ⟨_, records.after transition⟩

theorem Records.mem (records : Records evolves history provider) {owned : Wallet × String}
    (held : provider.connection.session.owned? = some owned) : owned ∈ history := by
  cases records with
  | new new =>
      rw [new.connection] at held
      cases held
  | after _ _ =>
      rw [held]
      exact List.mem_append_right _ (List.mem_singleton_self _)

variable [FreshBench Bench]

theorem Records.owner (records : Records FreshBench.evolves history provider)
    (live : provider.isCancelled = false) {id : String}
    (located : provider.connection.session.deviceId = some id) :
    ∃ owner, provider.connection.session.wallet = some owner ∧ (owner, id) ∈ history := by
  have attributed := records.reachable.run.2.attributed live
  obtain ⟨owner, owned, held⟩ := attributed.owner located
  exact ⟨owner, owned, records.mem held⟩

/-- Where no device is named, an attempt goes to the device that the session remembers, and that
was recorded for the session's wallet. A retry is for this wallet. A caller who wants another
wallet's device is connected to the remembered one all the same, whether or not it ever was a
device of that wallet. -/
theorem unnamed_attempt_goes_to_remembered_device
    (reachable : provider.Reachable FreshBench.evolves)
    (begins : provider.unnamedAttempt? request = some (wallet, deviceId)) :
    provider.begin request = provider.attempted wallet deviceId ∧
    (∃ history, Records FreshBench.evolves history provider) ∧
    ∀ history, Records FreshBench.evolves history provider →
      (∀ id, deviceId = some id → ∃ owner,
        provider.connection.session.wallet = some owner ∧ (owner, id) ∈ history) ∧
      (request = .retry → ∀ id, deviceId = some id → (wallet, id) ∈ history) ∧
      ((∃ id, deviceId = some id ∧ (wallet, id) ∉ history) ↔
        ∃ owner id, provider.connection.session.wallet = some owner ∧
          provider.connection.session.deviceId = some id ∧
          owner ≠ wallet ∧ (wallet, id) ∉ history) := by
  obtain ⟨live, rfl, made, retries⟩ := unnamedAttempt?_eq_some begins
  refine ⟨made, reachable.exists_records, fun history records => ⟨?_, ?_, ?_, ?_⟩⟩
  · exact fun id located => records.owner live located
  · rintro again id located
    obtain ⟨owner, owned, recorded⟩ := records.owner live located
    cases owned.symm.trans (retries again)
    exact recorded
  · rintro ⟨id, located, unrecorded⟩
    obtain ⟨owner, owned, recorded⟩ := records.owner live located
    refine ⟨owner, id, owned, located, ?_, unrecorded⟩
    rintro rfl
    exact unrecorded recorded
  · rintro ⟨owner, id, _, located, _, unrecorded⟩
    exact ⟨id, located, unrecorded⟩

def ledgerOnly : Provider SimulatedBench := (ofBench {}).begun (.connect .ledger (some "20"))

theorem ledgerOnly_records :
    Records FreshBench.evolves [(.ledger, "20")] ledgerOnly := by
  have member : (ofBench {}).asker (.connect .ledger (some "20")) ∈
      ((ofBench {}).asking (.connect .ledger (some "20"))).strands :=
    List.mem_append_right _ (List.mem_singleton_self _)
  exact .after (.after (.new (ofBench_isFresh {}).1) (.request _ _)) (.advance _ _ member rfl)

theorem unnamed_attempt_goes_to_remembered_device_ledgerOnly :
    ledgerOnly.unnamedAttempt? (.makeReady (some .trezor) none) = some (.trezor, some "20") ∧
    ledgerOnly.begin (.makeReady (some .trezor) none) = ledgerOnly.attempted .trezor (some "20") ∧
    ∃ owner, ledgerOnly.connection.session.wallet = some owner ∧ owner ≠ .trezor := by
  have begins : ledgerOnly.unnamedAttempt? (.makeReady (some .trezor) none) =
      some (.trezor, some "20") := rfl
  obtain ⟨made, _, recorded⟩ :=
    unnamed_attempt_goes_to_remembered_device ledgerOnly_records.reachable begins
  obtain ⟨_, _, foreign⟩ := recorded _ ledgerOnly_records
  obtain ⟨owner, _, owned, _, other, _⟩ := foreign.mp ⟨"20", rfl, by decide⟩
  exact ⟨begins, made, owner, owned, other⟩

theorem trezor_sent_to_ledger_device :
    ¬∀ (provider : Provider SimulatedBench) (history : List (Wallet × String))
        (request : Request) (wallet : Wallet) (id : String),
      Records FreshBench.evolves history provider →
        provider.unnamedAttempt? request = some (wallet, some id) → (wallet, id) ∈ history := by
  intro always
  have recorded := always ledgerOnly _ (.makeReady (some .trezor) none) .trezor "20"
    ledgerOnly_records rfl
  exact absurd recorded (by decide)

end Provider

end SignerLink
