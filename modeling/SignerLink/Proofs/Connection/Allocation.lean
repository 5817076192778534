import SignerLink.Proofs.Connection.Fields
/-!
Who is given a token. A connect is given one; what waits goes on under the token that it has, and
so does an operation.
-/

namespace SignerLink

namespace Connection

variable {Bench : Type} [AdapterBench Bench] (connection : Connection Bench)

@[simp] theorem ask_lastToken (adapter : AdapterId) (request : AdapterRequest) :
    (connection.ask adapter request).1.lastToken = connection.lastToken := by
  simp [ask]

@[simp] theorem await_lastToken (adapter : AdapterId) (request : AdapterRequest) :
    (connection.await adapter request).1.lastToken = connection.lastToken := by
  simp [await]

@[simp] theorem connectAnswered_lastToken (token : Token) (wallet : Wallet) (adapter : AdapterId)
    (answer : AdapterAnswer) :
    (connection.connectAnswered token wallet adapter answer).1.lastToken =
      connection.lastToken := by
  simp only [connectAnswered]
  split
  · simp
  · split <;> simp

@[simp] theorem openAdapter_lastToken (token : Token) (wallet : Wallet) (deviceId : String) :
    (connection.openAdapter token wallet deviceId).1.lastToken = connection.lastToken := by
  simp only [openAdapter]
  split
  next => simp
  next bench adapter _ =>
    generalize opened : setSession { setSession connection _ with bench := bench } _ = next
    have same : next.lastToken = connection.lastToken := by rw [← opened]; simp
    have asked := next.ask_lastToken adapter (.connect deviceId)
    rcases reached : next.ask adapter (.connect deviceId) with ⟨later, reply⟩
    rw [reached] at asked
    cases reply with
    | later milliseconds => exact asked.trans same
    | now answer => exact (connectAnswered_lastToken _ _ _ _ _).trans (asked.trans same)

@[simp] theorem searched_lastToken (token : Token) (wallet : Wallet) (found : DeviceSearch) :
    (connection.searched token wallet found).1.lastToken = connection.lastToken := by
  simp only [searched]
  split
  · rfl
  · split <;> simp

@[simp] theorem resumeAttempt_lastToken (call : AttemptCall) :
    (connection.resumeAttempt call).1.lastToken = connection.lastToken := by
  cases call <;> simp [resumeAttempt]

theorem connect_lastToken (live : connection.cancelled = false) (wallet : Wallet)
    (target : Target) :
    (connection.connect wallet target).1.lastToken = connection.lastToken + 1 := by
  simp only [connect, live, Bool.false_eq_true, if_false]
  split
  · simp
  · split <;> simp

@[simp] theorem verify_lastToken (token : Token) (wallet : Wallet) (deviceId : String)
    (adapter : AdapterId) :
    (connection.verify token wallet deviceId adapter).1.lastToken = connection.lastToken := by
  have asked := connection.ask_lastToken adapter (.verify deviceId)
  simp only [verify]
  rcases reached : connection.ask adapter (.verify deviceId) with ⟨later, reply⟩
  rw [reached] at asked
  cases reply with
  | later milliseconds => exact asked
  | now answer => exact (verifyAnswered_lastToken _ _ _ _).trans asked

@[simp] theorem verifyConnected_lastToken (wallet : Wallet) (progress : AttemptProgress) :
    (connection.verifyConnected wallet progress).1.lastToken = connection.lastToken := by
  simp only [verifyConnected]
  split
  · rfl
  · split
    · split <;> simp
    · rfl

@[simp] theorem resumeReadiness_lastToken (call : ReadinessCall) :
    (connection.resumeReadiness call).1.lastToken = connection.lastToken := by
  cases call <;> simp [resumeReadiness]

@[simp] theorem resumeDisconnect_lastToken (call : DisconnectCall) :
    (connection.resumeDisconnect call).1.lastToken = connection.lastToken := by
  simp [resumeDisconnect]

@[simp] theorem operate_lastToken (operation : Operation) :
    (connection.operate operation).1.lastToken = connection.lastToken := by
  simp only [operate]
  split
  · split <;> split <;> simp
  · rfl

theorem react_lastToken (event : ConnectionEvent) :
    (connection.react event).lastToken = connection.lastToken := by
  cases event with
  | pump =>
      simp only [react, pump]
      split <;> simp
  | cancel | closeInbox => rfl
  | reset | teardown | clearError | lost _ | noticed _ _ => simp [react]

end Connection

end SignerLink
