/-!
Stable codes for everything that can go wrong with a wallet, and what each of them means to
the user and to the caller.
-/

namespace SignerLink

inductive ErrorCode where
  | unknown
  | deviceLocked
  | deviceBlocked
  | securityCondition
  | appClosed
  | wrongApp
  | blindSigning
  | transportMissing
  | permissionDenied
  | userRejected
  | userCancelled
  | timeout
  | connectionClosed
  | deviceDisconnected
  | connectionFailed
  deriving DecidableEq, Repr

inductive Severity where
  | info
  | warning
  | error
  | critical
  deriving DecidableEq, Repr

inductive Category where
  | authentication
  | deviceState
  | connection
  | configuration
  | userAction
  | protocol
  | unknown
  deriving DecidableEq, Repr

inductive RetryStrategy where
  | noRetry
  | retry
  | retryAfterUserAction
  deriving DecidableEq, Repr

inductive ErrorKind where
  | authenticationLock
  | deviceState
  | transport
  | permission
  | userCancel
  | timeout
  | closed
  | unknown
  deriving DecidableEq, Repr

namespace Severity

def all : List Severity := [.info, .warning, .error, .critical]

def name : Severity → String
  | .info => "info"
  | .warning => "warning"
  | .error => "error"
  | .critical => "critical"

end Severity

namespace Category

def all : List Category :=
  [.authentication, .deviceState, .connection, .configuration, .userAction, .protocol, .unknown]

def name : Category → String
  | .authentication => "authentication"
  | .deviceState => "device_state"
  | .connection => "connection"
  | .configuration => "configuration"
  | .userAction => "user_action"
  | .protocol => "protocol"
  | .unknown => "unknown"

end Category

def RetryStrategy.name : RetryStrategy → String
  | .noRetry => "no_retry"
  | .retry => "retry"
  | .retryAfterUserAction => "retry_after_user_action"

def ErrorKind.name : ErrorKind → String
  | .authenticationLock => "AuthLock"
  | .deviceState => "DeviceState"
  | .transport => "ConnTransport"
  | .permission => "ConfigPerm"
  | .userCancel => "UserCancel"
  | .timeout => "ConnTimeout"
  | .closed => "ConnClosed"
  | .unknown => "Unknown"

namespace ErrorCode

def all : List ErrorCode :=
  [.unknown, .deviceLocked, .deviceBlocked, .securityCondition, .appClosed, .wrongApp,
    .blindSigning, .transportMissing, .permissionDenied, .userRejected, .userCancelled,
    .timeout, .connectionClosed, .deviceDisconnected, .connectionFailed]

def name : ErrorCode → String
  | .unknown => "Unknown"
  | .deviceLocked => "AuthenticationDeviceLocked"
  | .deviceBlocked => "AuthenticationDeviceBlocked"
  | .securityCondition => "AuthenticationSecurityCondition"
  | .appClosed => "DeviceStateEthAppClosed"
  | .wrongApp => "DeviceStateWrongApp"
  | .blindSigning => "DeviceStateBlindSignNotSupported"
  | .transportMissing => "ConnectionTransportMissing"
  | .permissionDenied => "PermissionDenied"
  | .userRejected => "UserRejected"
  | .userCancelled => "UserCancelled"
  | .timeout => "ConnectionTimeout"
  | .connectionClosed => "ConnectionClosed"
  | .deviceDisconnected => "DeviceDisconnected"
  | .connectionFailed => "ConnectionFailed"

def ofName? (name : String) : Option ErrorCode := all.find? fun code => code.name == name

def severity : ErrorCode → Severity
  | .deviceBlocked => .critical
  | .appClosed | .wrongApp | .blindSigning => .warning
  | .userRejected | .userCancelled => .info
  | _ => .error

def category : ErrorCode → Category
  | .unknown => .unknown
  | .deviceLocked | .deviceBlocked | .securityCondition => .authentication
  | .appClosed | .wrongApp | .blindSigning => .deviceState
  | .permissionDenied => .configuration
  | .userRejected | .userCancelled => .userAction
  | .transportMissing | .timeout | .connectionClosed | .deviceDisconnected
  | .connectionFailed => .connection

def retryStrategy : ErrorCode → RetryStrategy
  | .transportMissing | .userRejected | .userCancelled => .noRetry
  | .unknown | .timeout | .connectionClosed | .deviceDisconnected | .connectionFailed => .retry
  | _ => .retryAfterUserAction

def userActionable : ErrorCode → Bool
  | .userRejected | .userCancelled => false
  | _ => true

def userMessage : ErrorCode → String
  | .unknown => "An unexpected error occurred with your hardware wallet."
  | .deviceLocked => "Your hardware wallet is locked. Unlock it to continue."
  | .deviceBlocked =>
      "Your hardware wallet is blocked. Follow the device instructions to recover it."
  | .securityCondition => "Unlock your hardware wallet and try again."
  | .appClosed => "Open the Ethereum app on your hardware wallet to continue."
  | .wrongApp =>
      "A different app is open on your hardware wallet. Open the Ethereum app to continue."
  | .blindSigning => "Enable blind signing in the Ethereum app settings on your device."
  | .transportMissing =>
      "This environment cannot reach your hardware wallet. Try a supported browser."
  | .permissionDenied => "Permission to access your hardware wallet was denied."
  | .userRejected => "The request was rejected on your hardware wallet."
  | .userCancelled => "The request was cancelled."
  | .timeout => "Your hardware wallet did not respond in time."
  | .connectionClosed => "The connection to your hardware wallet was closed."
  | .deviceDisconnected => "Hardware wallet not found. Connect it and try again."
  | .connectionFailed => "Hardware wallet connection failed."

def kind : ErrorCode → ErrorKind
  | .deviceLocked | .deviceBlocked | .securityCondition => .authenticationLock
  | .appClosed | .wrongApp | .blindSigning => .deviceState
  | .transportMissing | .connectionFailed => .transport
  | .permissionDenied => .permission
  | .userRejected | .userCancelled => .userCancel
  | .timeout => .timeout
  | .connectionClosed | .deviceDisconnected => .closed
  | .unknown => .unknown

def isRetryable : ErrorCode → Bool
  | .deviceLocked | .deviceBlocked | .appClosed | .blindSigning | .connectionClosed => true
  | _ => false

def isUserRejection : ErrorCode → Bool
  | .userRejected | .userCancelled => true
  | _ => false

def ofStatusWord? (status : UInt16) : Option ErrorCode :=
  if status = 0x5515 then some .deviceLocked
  else if status = 0x6982 then some .securityCondition
  else if status = 0x6985 || status = 0x5501 then some .userRejected
  else if status = 0x650f || status = 0x6511 || status = 0x6d00 || status = 0x6e00 then
    some .appClosed
  else if status = 0x6a80 then some .blindSigning
  else none

end ErrorCode

end SignerLink
