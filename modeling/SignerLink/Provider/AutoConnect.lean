import SignerLink.Provider.Basic
/-!
Connecting without being asked: after the user has selected a hardware account, and when a
device of the selected account's wallet is attached. Whatever was learned for an earlier
account selection is thrown away.
-/

namespace SignerLink

namespace Provider

variable {Bench : Type} [AdapterBench Bench]

def isCurrent (provider : Provider Bench) (epoch : Nat) : Bool :=
  !provider.isCancelled && provider.tracking.epoch == epoch

def eligible? (provider : Provider Bench) (epoch : Nat) (trigger : Trigger) :
    Option (Wallet × Account) :=
  let tracking := provider.tracking
  if !provider.policy.enabled || provider.isCancelled || tracking.epoch != epoch then none
  else
    match tracking.account.wallet? with
    | none => none
    | some wallet =>
        if trigger = .accountChanged ∧ tracking.completedFor = some tracking.account then none
        else if provider.permission.state ≠ .granted then none
        else if provider.connection.isBusy then none
        else some (wallet, tracking.account)

/-! Listening. -/

def stopListening (provider : Provider Bench) : Provider Bench :=
  provider.setTracking { provider.tracking with listener := none }

def subscribe (provider : Provider Bench) (wallet : Wallet) : Provider Bench × SubscriptionId :=
  let (host, subscription) := provider.host.subscribe wallet
  let provider := provider.setHost host
  if provider.host.isActive subscription then
    ((provider.spawn (.forwarder subscription)).1, subscription)
  else (provider, subscription)

/-- Watches for devices of the wallet, and no longer for those of another. -/
def listen (provider : Provider Bench) (wallet : Wallet) : Provider Bench :=
  if provider.tracking.listener.any fun listener => listener.wallet == wallet then provider
  else
    let (provider, subscription) := provider.stopListening.subscribe wallet
    if provider.host.isActive subscription then
      let (provider, strand) := provider.spawn (.listener subscription)
      provider.setTracking { provider.tracking with listener := some ⟨wallet, strand⟩ }
    else provider

/-! Evaluation. -/

/-- An attempt begun for an account has ended. A failure that is not the user's will is
followed by a retry, as long as some are left. -/
def settle (provider : Provider Bench) (epoch : Nat) (account : Account) (trigger : Trigger)
    (outcome : ConnectOutcome) : Provider Bench :=
  let tracking := provider.tracking
  if tracking.epoch ≠ epoch then provider
  else
    match outcome with
    | .connected =>
        provider.setTracking { tracking with completedFor := some account, retries := 0 }
    | .failed error =>
        if error.isUserRejection || tracking.retries ≥ provider.policy.retryLimit then provider
        else
          let delay := provider.policy.retryDelay tracking.retries
          let provider := provider.setTracking { tracking with retries := tracking.retries + 1 }
          (provider.spawn (.retry epoch trigger (provider.now + delay.milliseconds))).1
    | .superseded | .aborted => provider

def followAttempt (provider : Provider Bench) (epoch : Nat) (account : Account)
    (trigger : Trigger) (progress : Progress AttemptCall ConnectOutcome) :
    Provider Bench × Step :=
  match progress with
  | .waiting call milliseconds =>
      (provider, .waiting (.autoConnect epoch account trigger call) milliseconds)
  | .finished outcome => (provider.settle epoch account trigger outcome, .finished .done)

def autoConnect (provider : Provider Bench) (epoch : Nat) (trigger : Trigger)
    (deviceId : String) : Provider Bench × Step :=
  match provider.eligible? epoch trigger with
  | none => (provider, .finished .done)
  | some (wallet, account) =>
      let (connection, progress) := provider.connection.connect wallet (.device deviceId)
      (provider.setConnection connection).followAttempt epoch account trigger progress

def searched (provider : Provider Bench) (epoch : Nat) (found : DeviceSearch) :
    Provider Bench × Step :=
  if provider.isCurrent epoch then
    match found with
    | .ok (some deviceId) => provider.autoConnect epoch .accountChanged deviceId
    | _ => (provider, .finished .done)
  else (provider, .finished .done)

/-- Connects for the tracked account, to the attached device or else to one that is paired. -/
def evaluate (provider : Provider Bench) (epoch : Nat) (trigger : Trigger) :
    Provider Bench × Step :=
  match provider.eligible? epoch trigger with
  | none => (provider, .finished .done)
  | some (wallet, _) =>
      match trigger with
      | .deviceAttached deviceId => provider.autoConnect epoch trigger deviceId
      | .accountChanged =>
          let (host, awaited) := provider.host.inquire wallet
          let provider := provider.setHost host
          let found := awaited.answer.deviceId wallet
          if awaited.delay = 0 then provider.searched epoch found
          else (provider, .waiting (.search epoch found) awaited.delay)

/-! Account selections. -/

def accountChecked (provider : Provider Bench) (epoch : Nat) (call : PermissionCall) :
    Provider Bench × Step :=
  let provider := provider.setPermission (provider.permission.commit call)
  if provider.isCurrent epoch then provider.evaluate epoch .accountChanged
  else (provider, .finished .done)

def beginCheck (provider : Provider Bench) (wallet : Wallet) :
    Provider Bench × PermissionCall × Nat :=
  let (host, awaited) := provider.host.inquire wallet
  let (permission, call) := provider.permission.begin (awaited.answer.permission wallet)
  ((provider.setHost host).setPermission permission, call, awaited.delay)

/-- Gives everything up for an account that is kept in software. -/
def release (provider : Provider Bench) : Provider Bench :=
  let provider := provider.stopListening
  let provider := provider.setTracking { provider.tracking with completedFor := none }
  (provider.setConnection provider.connection.reset).setPermission provider.permission.reset

def track (provider : Provider Bench) (account : Account) : Provider Bench :=
  provider.setTracking
    { provider.tracking with
      account := account
      epoch := provider.tracking.epoch + 1
      retries := 0 }

def turnTo (provider : Provider Bench) (wallet : Wallet) : Provider Bench :=
  let provider :=
    if provider.connection.session.wallet.any (· != wallet) then
      provider.setConnection provider.connection.reset
    else provider
  provider.listen wallet

def selectAccount (provider : Provider Bench) (account : Account) : Provider Bench × Step :=
  if provider.isCancelled || provider.tracking.account == account then
    (provider, .finished .done)
  else
    let provider := provider.track account
    match account.wallet? with
    | none => (provider.release, .finished .done)
    | some wallet =>
        let epoch := provider.tracking.epoch
        let (provider, call, delay) := (provider.turnTo wallet).beginCheck wallet
        if delay = 0 then provider.accountChecked epoch call
        else (provider, .waiting (.accountCheck epoch call) delay)

/-! Plug events. -/

def attachChecked (provider : Provider Bench) (epoch : Nat) (deviceId : String)
    (call : PermissionCall) : Provider Bench × Step :=
  let provider := provider.setPermission (provider.permission.commit call)
  if provider.isCurrent epoch && call.permission == .granted then
    let provider := provider.setTracking { provider.tracking with retries := 0 }
    provider.evaluate epoch (.deviceAttached deviceId)
  else (provider, .finished .done)

/-- Reacts to a device that comes or goes while a hardware account is selected. -/
def plugEvent (provider : Provider Bench) (event : PlugEvent) : Provider Bench × Step :=
  if provider.isCancelled then (provider, .finished .done)
  else
    match provider.wallet? with
    | none => (provider, .finished .done)
    | some wallet =>
        match event with
        | .detached device =>
            if provider.connection.session.deviceId = some device.id then
              (provider.setConnection (provider.connection.handleDisconnect none),
                .finished .done)
            else (provider, .finished .done)
        | .attached device =>
            if provider.connection.isBusy then (provider, .finished .done)
            else
              let epoch := provider.tracking.epoch
              let (provider, call, delay) := provider.beginCheck wallet
              if delay = 0 then provider.attachChecked epoch device.id call
              else (provider, .waiting (.attachCheck epoch device.id call) delay)

end Provider

end SignerLink
