import SignerLink.Transport.Inquiry
import SignerLink.Transport.Subscription
/-!
A host kept in memory: paired devices and the user's responses to the device chooser are
arranged by hand. Its answers are taken when it is asked and arrive after its latency.
-/

namespace SignerLink

inductive ChooserResponse where
  | select (device : Device)
  | cancel
  | deny
  | fail (message : String)
  deriving DecidableEq, Repr

def ChooserResponse.ofJson? (json : Json) : Option ChooserResponse := do
  match ← json.textField? "response" with
  | "select" => return .select (← Device.ofJson? (json.field "device"))
  | "cancel" => return .cancel
  | "deny" => return .deny
  | "fail" => return .fail (← json.textField? "message")
  | _ => none

abbrev SubscriptionId := Nat

structure MemoryHost where
  unavailable : List Channel := []
  paired : List (Channel × Device) := []
  responses : List ChooserResponse := []
  enumerationFailure : Option String := none
  enumerations : Nat := 0
  choosers : Nat := 0
  latency : Nat := 0
  subscriptions : List Subscription := []
  deriving DecidableEq, Repr

namespace MemoryHost

def isAvailable (host : MemoryHost) (channel : Channel) : Bool :=
  !host.unavailable.contains channel

def setAvailable (host : MemoryHost) (channel : Channel) (available : Bool) : MemoryHost :=
  let others := host.unavailable.filter (· != channel)
  { host with unavailable := if available then others else channel :: others }

/-- Lets the session reach a device; one that is paired stays in its place. -/
def pair (host : MemoryHost) (channel : Channel) (device : Device) : MemoryHost :=
  if host.paired.contains (channel, device) then host
  else { host with paired := host.paired ++ [(channel, device)] }

def unpair (host : MemoryHost) (channel : Channel) (device : Device) : MemoryHost :=
  { host with paired := host.paired.filter (· != (channel, device)) }

def pairedOn (host : MemoryHost) (channel : Channel) : List Device :=
  (host.paired.filter fun entry => entry.1 == channel).map Prod.snd

def listensOn (channel : Channel) (subscription : Subscription) : Bool :=
  subscription.forwarding && subscription.wallet.channel? == some channel

/-- Publishes an event to every forwarder on the channel and counts them. -/
def emit (host : MemoryHost) (channel : Channel) (event : PlugEvent) : MemoryHost × Nat :=
  ({ host with
      subscriptions := host.subscriptions.map fun subscription =>
        if listensOn channel subscription then subscription.publish event else subscription },
    host.subscriptions.countP (listensOn channel))

def plugIn (host : MemoryHost) (channel : Channel) (device : Device) : MemoryHost :=
  ((host.pair channel device).emit channel (.attached device)).1

def unplug (host : MemoryHost) (channel : Channel) (device : Device) : MemoryHost :=
  ((host.unpair channel device).emit channel (.detached device)).1

def queueResponse (host : MemoryHost) (response : ChooserResponse) : MemoryHost :=
  { host with responses := host.responses ++ [response] }

/-- Makes every enumeration fail, until cleared with `none`. -/
def failEnumeration (host : MemoryHost) (message : Option String) : MemoryHost :=
  { host with enumerationFailure := message }

def setLatency (host : MemoryHost) (milliseconds : Nat) : MemoryHost :=
  { host with latency := milliseconds }

/-- An answer on its way: what it will be, the device that it pairs when it arrives, and its
delay in milliseconds. -/
structure Awaited (α : Type) where
  answer : α
  selection : Option (Channel × Device) := none
  delay : Nat := 0

def Awaited.map {α β : Type} (judge : α → β) (awaited : Awaited α) : Awaited β :=
  ⟨judge awaited.answer, awaited.selection, awaited.delay⟩

def enumerate (host : MemoryHost) (channel : Channel) : MemoryHost × Awaited DeviceAnswer :=
  if host.isAvailable channel then
    let answer : DeviceAnswer :=
      match host.enumerationFailure with
      | some message => .error (.other message)
      | none => .ok (host.pairedOn channel)
    ({ host with enumerations := host.enumerations + 1 },
      { answer := answer, delay := host.latency })
  else (host, { answer := .error (.unavailable channel) })

def responseAnswer : ChooserResponse → DeviceAnswer
  | .select device => .ok [device]
  | .cancel => .error (.other "User cancelled the requestDevice() chooser.")
  | .deny => .error (.denied "Permission request was denied by user")
  | .fail message => .error (.other message)

/-- Opens the device chooser, which uses up the next response; without one it is dismissed. -/
def choose (host : MemoryHost) (channel : Channel) : MemoryHost × Awaited DeviceAnswer :=
  if host.isAvailable channel then
    let response := host.responses.headD .cancel
    let selection : Option (Channel × Device) :=
      match response with
      | .select device => some (channel, device)
      | _ => none
    ({ host with choosers := host.choosers + 1, responses := host.responses.tail },
      { answer := responseAnswer response, selection := selection, delay := host.latency })
  else (host, { answer := .error (.unavailable channel) })

/-- The arrival of an answer pairs the device that it selects. -/
def deliver (host : MemoryHost) (selection : Option (Channel × Device)) : MemoryHost :=
  match selection with
  | none => host
  | some (channel, device) => host.pair channel device

def inquire (host : MemoryHost) (wallet : Wallet) : MemoryHost × Awaited Inquiry :=
  match wallet.reach host.isAvailable with
  | .error error => (host, { answer := .refused error })
  | .ok channel =>
      let (host, awaited) := host.enumerate channel
      (host, awaited.map .answered)

def request (host : MemoryHost) (wallet : Wallet) : MemoryHost × Awaited Inquiry :=
  match wallet.reach host.isAvailable with
  | .error error => (host, { answer := .refused error })
  | .ok channel =>
      let (host, awaited) := host.choose channel
      (host, awaited.map .answered)

def subscribe (host : MemoryHost) (wallet : Wallet) : MemoryHost × SubscriptionId :=
  let subscription : Subscription :=
    if wallet.isReachable host.isAvailable then { wallet := wallet }
    else Subscription.inactive wallet
  ({ host with subscriptions := host.subscriptions ++ [subscription] }, host.subscriptions.length)

def subscription? (host : MemoryHost) (id : SubscriptionId) : Option Subscription :=
  host.subscriptions[id]?

def update (host : MemoryHost) (id : SubscriptionId) (change : Subscription → Subscription) :
    MemoryHost :=
  { host with subscriptions := host.subscriptions.modify id change }

def isActive (host : MemoryHost) (id : SubscriptionId) : Bool :=
  match host.subscription? id with
  | none => false
  | some subscription => subscription.isActive

def cancel (host : MemoryHost) (id : SubscriptionId) : MemoryHost :=
  host.update id Subscription.cancel

def forward (host : MemoryHost) (id : SubscriptionId) : MemoryHost :=
  host.update id Subscription.forward

def receive (host : MemoryHost) (id : SubscriptionId) : MemoryHost × Look PlugEvent :=
  match host.subscription? id with
  | none => (host, .ended)
  | some subscription =>
      let (subscription, look) := subscription.receive
      (host.update id fun _ => subscription, look)

end MemoryHost

end SignerLink
