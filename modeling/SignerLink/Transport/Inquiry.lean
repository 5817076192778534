import SignerLink.Transport.Error
/-!
Questions to the host about a wallet's devices. A question is refused when the wallet's channel
cannot be reached; otherwise the host's answer is judged by the wallet's filters.
-/

namespace SignerLink

abbrev DeviceAnswer := Except TransportError (List Device)

def Wallet.reach (wallet : Wallet) (available : Channel → Bool) : Except TransportError Channel :=
  match wallet.channel? with
  | none => .error (.unsupported wallet)
  | some channel =>
      if available channel then .ok channel else .error (.unavailable channel)

def Wallet.isReachable (wallet : Wallet) (available : Channel → Bool) : Bool :=
  (wallet.reach available).isOk

/-- What became of a question: refused before the host was asked, or answered by it. -/
inductive Inquiry where
  | refused (error : TransportError)
  | answered (answer : DeviceAnswer)
  deriving Repr

namespace Inquiry

def result : Inquiry → DeviceAnswer
  | .refused error => .error error
  | .answered answer => answer

def permission (wallet : Wallet) : Inquiry → Permission
  | .refused _ => .denied
  | .answered (.ok devices) => if devices.any wallet.accepts then .granted else .prompt
  | .answered (.error _) => .unknown

/-- Whether the first device chosen by the user belongs to the wallet. -/
def isGrant (wallet : Wallet) : Inquiry → Bool
  | .answered (.ok (device :: _)) => wallet.accepts device
  | _ => false

def discovered (wallet : Wallet) (inquiry : Inquiry) : DeviceAnswer :=
  inquiry.result.map fun devices => devices.filter wallet.accepts

/-- Failures count as no devices. -/
def matching (wallet : Wallet) (inquiry : Inquiry) : List Device :=
  (inquiry.discovered wallet).toOption.getD []

def deviceId (wallet : Wallet) (inquiry : Inquiry) : Except TransportError (Option String) :=
  (inquiry.discovered wallet).map fun devices => devices.head?.map Device.id

def isAttached (wallet : Wallet) (deviceId : Option String) (inquiry : Inquiry) : Bool :=
  match deviceId with
  | none => !(inquiry.matching wallet).isEmpty
  | some id => (inquiry.matching wallet).any fun device => device.id == id

end Inquiry

structure FixedHost where
  available : Bool
  paired : DeviceAnswer
  chosen : DeviceAnswer

namespace FixedHost

def ask (host : FixedHost) (wallet : Wallet) (answer : DeviceAnswer) : Inquiry :=
  match wallet.reach fun _ => host.available with
  | .error error => .refused error
  | .ok _ => .answered answer

def enumerate (host : FixedHost) (wallet : Wallet) : Inquiry := host.ask wallet host.paired

def choose (host : FixedHost) (wallet : Wallet) : Inquiry := host.ask wallet host.chosen

end FixedHost

end SignerLink
