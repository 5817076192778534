import SignerLink.Adapter.Simulated
import SignerLink.Proofs.Connection.Clearing
/-!
What a device that opens an application tells of itself, once by the notice that it sends and once
by its answer to a check. The two agree for wallets that expect an application. For a wallet that
expects none, the notice always names a wrong application and the check always succeeds.
-/

namespace SignerLink

def Notice.opened (app : String) : Notice := { kind := .appChanged, app := some app }

namespace StateEvent

def misplaced (app : String) : StateEvent := .awaitingApp .wrongApp (some app)

theorem ofNotice_opened (app : String) (wallet : Wallet) :
    ofNotice (.opened app) wallet =
      if wallet.expectedApp? = some app then .ready else misplaced app := by
  simp only [ofNotice, Notice.opened, misplaced, Option.isSome_some, Bool.true_and, beq_iff_eq,
    Option.bind_some, Option.getD_some]
  by_cases expected : wallet.expectedApp? = some app
  · rw [if_pos expected, if_pos expected.symm]
  · rw [if_neg expected, if_neg fun same => expected same.symm]

theorem ofNotice_opened_eq_ready_iff (app : String) (wallet : Wallet) :
    ofNotice (.opened app) wallet = .ready ↔ wallet.expectedApp? = some app := by
  rw [ofNotice_opened]
  split <;> simp_all [misplaced]

end StateEvent

namespace SimulatedBench

variable {bench : SimulatedBench} {id : AdapterId} {adapter : SimulatedAdapter} {app : String}

theorem notice_of_openApp {signal : Signal} (heard : signal ∈ (bench.openApp app).2) :
    signal.notice = .opened app := by
  obtain ⟨_, _, rfl⟩ := List.mem_map.mp heard
  rfl

theorem begin_verify (known : bench.adapters[id]? = some adapter)
    (connected : adapter.isConnected = true) (deviceId : String) :
    AdapterBench.begin bench id (.verify deviceId) =
      (bench, [], .now (readiness bench.device adapter)) := by
  simp [AdapterBench.begin, begin, readinessOf, known, connected]

def wrongApp (wallet : Wallet) (app : String) : WalletError :=
  ((WalletError.ofCode .wrongApp).withWallet wallet).withField "appName" (.string app)

def answerWith (wallet : Wallet) (app : String) : AdapterAnswer :=
  if wallet.expectedApp? = none ∨ wallet.expectedApp? = some app then .ok true
  else .error (.wallet (wrongApp wallet app))

theorem readiness_openApp (present : bench.device.present = true)
    (unlocked : bench.device.locked = false) :
    readiness (bench.openApp app).1.device adapter = answerWith adapter.wallet app := by
  simp only [readiness, openApp, setDevice, present, unlocked, answerWith, wrongApp]
  cases adapter.wallet.expectedApp? with
  | none => simp
  | some expected => simp [eq_comm (a := expected)]

theorem answerWith_eq_ok_iff (wallet : Wallet) (app : String) :
    answerWith wallet app = .ok true ↔
      wallet.expectedApp? = none ∨ wallet.expectedApp? = some app := by
  simp only [answerWith]
  split <;> simp_all

theorem checkEvent_answerWith (wallet : Wallet) (app : String) :
    Connection.checkEvent wallet (answerWith wallet app) =
      if wallet.expectedApp? = none then .ready else .ofNotice (.opened app) wallet := by
  have wrong : StateEvent.ofError (wrongApp wallet app) = .misplaced app := rfl
  rw [StateEvent.ofNotice_opened]
  by_cases anyApp : wallet.expectedApp? = none
  · simp [answerWith, anyApp, Connection.checkEvent]
  · by_cases expected : wallet.expectedApp? = some app
    · simp [answerWith, expected, Connection.checkEvent]
    · simp [answerWith, anyApp, expected, Connection.checkEvent, AdapterError.classify, wrong]

/-- The notice of an application shows the device ready if the wallet expects this application,
the check if the wallet expects this one or none. They agree, also on the state that is shown when
the device is not ready, exactly if the wallet expects an application. -/
theorem notice_agrees_with_check_iff {signal : Signal}
    (known : bench.adapters[id]? = some adapter) (connected : adapter.isConnected = true)
    (present : bench.device.present = true) (unlocked : bench.device.locked = false)
    (heard : signal ∈ (bench.openApp app).2) (deviceId : String) :
    ∃ answer,
      AdapterBench.begin (bench.openApp app).1 id (.verify deviceId) =
        ((bench.openApp app).1, [], .now answer) ∧
      (StateEvent.ofNotice signal.notice adapter.wallet = .ready ↔
        adapter.wallet.expectedApp? = some app) ∧
      (answer = .ok true ↔
        adapter.wallet.expectedApp? = none ∨ adapter.wallet.expectedApp? = some app) ∧
      (adapter.wallet.expectedApp?.isSome = true ↔
        (StateEvent.ofNotice signal.notice adapter.wallet = .ready ↔ answer = .ok true)) ∧
      (adapter.wallet.expectedApp?.isSome = true → answer ≠ .ok true →
        StateEvent.ofNotice signal.notice adapter.wallet = .awaitingApp .wrongApp (some app) ∧
        Connection.checkEvent adapter.wallet answer = .awaitingApp .wrongApp (some app)) := by
  have answers : AdapterBench.begin (bench.openApp app).1 id (.verify deviceId) =
      ((bench.openApp app).1, [], .now (answerWith adapter.wallet app)) := by
    rw [begin_verify (by exact known) connected, readiness_openApp present unlocked]
  have checked := answerWith_eq_ok_iff adapter.wallet app
  have shown := StateEvent.ofNotice_opened_eq_ready_iff app adapter.wallet
  refine ⟨_, answers, ?_⟩
  rw [notice_of_openApp heard]
  refine ⟨shown, checked, ?_, ?_⟩
  · rw [shown, checked]
    cases adapter.wallet.expectedApp? <;> simp
  · intro expects unready
    have other : StateEvent.ofNotice (.opened app) adapter.wallet = .misplaced app := by
      rw [StateEvent.ofNotice_opened, if_neg fun expected => unready (checked.mpr (.inr expected))]
    refine ⟨other, ?_⟩
    rw [checkEvent_answerWith, if_neg (by simpa [Option.isSome_iff_ne_none] using expects), other]
    rfl

/-- A device to which an adapter of the wallet is connected. -/
def attachedTo (wallet : Wallet) : SimulatedBench :=
  ((({} : SimulatedBench).create wallet 1).1.finish 0 (.connect "left")).1

theorem notice_agrees_with_check_iff_bitcoin :
    ∃ answer, AdapterBench.begin ((attachedTo .ledger).openApp "Bitcoin").1 0 (.verify "left") =
        (((attachedTo .ledger).openApp "Bitcoin").1, [], .now answer) ∧
      Connection.checkEvent Wallet.ledger answer = .awaitingApp .wrongApp (some "Bitcoin") := by
  have known : (attachedTo .ledger).adapters[0]? =
      some { wallet := .ledger, token := 1, connected := true } := rfl
  have heard : ⟨0, 1, .opened "Bitcoin"⟩ ∈ ((attachedTo .ledger).openApp "Bitcoin").2 := by decide
  obtain ⟨answer, asked, _, checked, _, both⟩ :=
    notice_agrees_with_check_iff known rfl rfl rfl heard "left"
  have unready : answer ≠ .ok true := by
    intro ready
    rcases checked.mp ready with none | same
    · cases none
    · exact absurd same (by decide)
  exact ⟨answer, asked, (both rfl unready).2⟩

theorem trezor_awaits_app_though_ready :
    ¬∀ (bench : SimulatedBench) (id : AdapterId) (adapter : SimulatedAdapter)
        (app deviceId : String) (signal : Signal) (answer : AdapterAnswer),
      adapter.wallet.channel?.isSome = true → bench.adapters[id]? = some adapter →
      adapter.isConnected = true → bench.device.present = true → bench.device.locked = false →
      signal ∈ (bench.openApp app).2 →
      ((bench.openApp app).1.begin id (.verify deviceId)).2 = .now answer →
        (StateEvent.ofNotice signal.notice adapter.wallet = .ready ↔ answer = .ok true) := by
  intro always
  have agree := always (attachedTo .trezor) 0 _ "Bitcoin" "left" ⟨0, 1, .opened "Bitcoin"⟩
    (.ok true) (by decide) rfl (by decide) rfl rfl (by decide) rfl
  cases agree.mpr rfl

end SimulatedBench

end SignerLink
