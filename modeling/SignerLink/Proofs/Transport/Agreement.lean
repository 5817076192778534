import SignerLink.Transport.Memory
/-!
What one question to the host is taken for. Whether a wallet may be used, which devices it has,
which of them is to be connected and whether one is attached are judged apart from each other, and
yet they agree for as long as the host goes on to answer in the same way.
-/

namespace SignerLink

namespace Wallet

/-- A filter of the wallet names the device's vendor, and its product unless it takes any. -/
def Owns (wallet : Wallet) (device : Device) : Prop :=
  ∃ filter ∈ wallet.filters, filter.vendorId = device.vendorId ∧
    ∀ product ∈ filter.productId, product = device.productId

theorem accepts_iff (wallet : Wallet) (device : Device) :
    wallet.accepts device = true ↔ wallet.Owns device := by
  simp only [accepts, DeviceFilter.anyAccepts, List.any_eq_true, Owns]
  refine exists_congr fun filter => and_congr_right fun _ => ?_
  rw [DeviceFilter.accepts, Bool.and_eq_true, beq_iff_eq]
  cases filter.productId <;> simp

instance (wallet : Wallet) : DecidablePred wallet.Owns := fun device =>
  decidable_of_iff _ (wallet.accepts_iff device)

/-- The wallet has the channel, and so has the host. -/
structure Reaches (wallet : Wallet) (available : Channel → Bool) (channel : Channel) : Prop where
  known : wallet.channel? = some channel
  opened : available channel = true

/-- Why the wallet is refused without asking the host for its devices. -/
inductive Refused (wallet : Wallet) (available : Channel → Bool) : TransportError → Prop where
  | unsupported : wallet.channel? = none → Refused wallet available (.unsupported wallet)
  | unavailable (channel : Channel) : wallet.channel? = some channel →
      available channel = false → Refused wallet available (.unavailable channel)

variable {wallet : Wallet} {available : Channel → Bool}

theorem reach_eq_ok_iff {channel : Channel} :
    wallet.reach available = .ok channel ↔ wallet.Reaches available channel := by
  rw [reach]
  constructor
  · intro reached
    split at reached
    next => cases reached
    next own known =>
      split at reached
      next opened =>
        cases reached
        exact ⟨known, opened⟩
      next => cases reached
  · rintro ⟨known, opened⟩
    simp [known, opened]

theorem reach_eq_error_iff {error : TransportError} :
    wallet.reach available = .error error ↔ wallet.Refused available error := by
  rw [reach]
  constructor
  · intro refused
    split at refused
    next unknown =>
      cases refused
      exact .unsupported unknown
    next channel known =>
      split at refused
      next => cases refused
      next closed =>
        cases refused
        exact .unavailable channel known (by simpa using closed)
  · rintro (unknown | ⟨channel, known, closed⟩)
    · simp [unknown]
    · simp [known, closed]

end Wallet

namespace Inquiry

variable {wallet : Wallet} {inquiry : Inquiry}

theorem matching_of_answered {devices : List Device}
    (answered : inquiry = .answered (.ok devices)) :
    inquiry.matching wallet = devices.filter fun device => wallet.Owns device := by
  subst answered
  simp only [matching, discovered, result, Except.map, Except.toOption, Option.getD_some,
    ← wallet.accepts_iff, Bool.decide_eq_true]

theorem matching_of_failed
    (failed : ∀ devices, inquiry ≠ .answered (.ok devices)) : inquiry.matching wallet = [] := by
  rcases inquiry with error | error | devices
  · rfl
  · rfl
  · exact absurd rfl (failed devices)

/-! The permission. -/

theorem permission_denied_iff :
    inquiry.permission wallet = .denied ↔ ∃ error, inquiry = .refused error := by
  rcases inquiry with error | error | devices
  · simp [permission]
  · simp [permission]
  · simp only [permission]
    split <;> simp

theorem permission_unknown_iff :
    inquiry.permission wallet = .unknown ↔ ∃ error, inquiry = .answered (.error error) := by
  rcases inquiry with error | error | devices
  · simp [permission]
  · simp [permission]
  · simp only [permission]
    split <;> simp

theorem permission_granted_iff :
    inquiry.permission wallet = .granted ↔ inquiry.matching wallet ≠ [] := by
  rcases inquiry with error | error | devices
  · simp [permission, matching_of_failed]
  · simp [permission, matching_of_failed]
  · rw [matching_of_answered rfl]
    simp only [permission]
    split <;> simp_all [wallet.accepts_iff]

theorem permission_prompt_iff :
    inquiry.permission wallet = .prompt ↔
      (∃ devices, inquiry = .answered (.ok devices)) ∧ inquiry.matching wallet = [] := by
  have granted : inquiry.permission wallet = .granted ↔ inquiry.matching wallet ≠ [] :=
    permission_granted_iff
  rcases inquiry with error | error | devices
  · simp [permission]
  · simp [permission]
  · simp only [permission] at granted ⊢
    split at granted <;> simp_all

/-! The device to connect. -/

theorem deviceId_iff {id : String} :
    inquiry.deviceId wallet = .ok (some id) ↔
      ∃ device, (inquiry.matching wallet).head? = some device ∧ device.id = id := by
  simp only [deviceId, matching]
  cases inquiry.discovered wallet <;> simp [Except.map, Except.toOption]

theorem isAttached_none_iff :
    inquiry.isAttached wallet none = true ↔ inquiry.matching wallet ≠ [] := by
  simp [isAttached]

theorem isAttached_of_mem {device : Device} (listed : device ∈ inquiry.matching wallet) :
    inquiry.isAttached wallet (some device.id) = true :=
  List.any_eq_true.mpr ⟨device, listed, beq_self_eq_true device.id⟩

end Inquiry

/-- A host that answers every question in the same way. -/
structure SteadyHost where
  available : Channel → Bool
  paired : Channel → DeviceAnswer

namespace SteadyHost

def inquire (host : SteadyHost) (wallet : Wallet) : Inquiry :=
  match wallet.reach host.available with
  | .error error => .refused error
  | .ok channel => .answered (host.paired channel)

variable {host : SteadyHost} {wallet : Wallet}

theorem inquire_eq_answered_iff {answer : DeviceAnswer} :
    host.inquire wallet = .answered answer ↔
      ∃ channel, wallet.Reaches host.available channel ∧ host.paired channel = answer := by
  simp only [inquire, ← Wallet.reach_eq_ok_iff]
  split
  next error refused => simp [refused]
  next channel reached => simp [reached]

theorem inquire_eq_refused_iff {error : TransportError} :
    host.inquire wallet = .refused error ↔ wallet.Refused host.available error := by
  simp only [inquire, ← Wallet.reach_eq_error_iff]
  split
  next other refused => simp [refused]
  next channel reached => simp [reached]

theorem isReachable_eq_false_iff :
    wallet.isReachable host.available = false ↔ ∃ error, host.inquire wallet = .refused error := by
  simp only [Wallet.isReachable, inquire]
  cases wallet.reach host.available <;> simp [Except.isOk, Except.toBool]

/-- A wallet is denied exactly where it is refused before the host is asked; what the host answers
itself, be it that the channel is unavailable, leaves the permission unknown. It is granted exactly
where some device is found. The devices are those of the enumeration that the wallet owns, in their
order, and the first one is the one that is discovered, and is attached. -/
theorem permission_agrees_with_discovery (host : SteadyHost) (wallet : Wallet) :
    ((host.inquire wallet).permission wallet = .denied ↔
      wallet.isReachable host.available = false) ∧
    (wallet.isReachable host.available = false ↔
      ∃ error, wallet.Refused host.available error ∧ host.inquire wallet = .refused error ∧
        (host.inquire wallet).deviceId wallet = .error error) ∧
    ((host.inquire wallet).permission wallet = .unknown ↔
      ∃ channel error, wallet.Reaches host.available channel ∧ host.paired channel = .error error) ∧
    ((host.inquire wallet).permission wallet = .granted ↔
      ∃ id, (host.inquire wallet).deviceId wallet = .ok (some id)) ∧
    ((host.inquire wallet).permission wallet = .granted ↔
      (host.inquire wallet).matching wallet ≠ []) ∧
    ((host.inquire wallet).permission wallet = .granted ↔
      (host.inquire wallet).isAttached wallet none = true) ∧
    ((host.inquire wallet).permission wallet = .prompt ↔
      ∃ channel devices, wallet.Reaches host.available channel ∧ host.paired channel = .ok devices ∧
        ∀ device ∈ devices, ¬wallet.Owns device) ∧
    (∀ channel devices, wallet.Reaches host.available channel → host.paired channel = .ok devices →
      (host.inquire wallet).matching wallet = devices.filter fun device => wallet.Owns device) ∧
    ∀ id, (host.inquire wallet).deviceId wallet = .ok (some id) →
      (host.inquire wallet).isAttached wallet (some id) = true ∧
        ∃ device, ((host.inquire wallet).matching wallet).head? = some device ∧ device.id = id := by
  have listed {channel : Channel} {devices : List Device}
      (reaches : wallet.Reaches host.available channel)
      (paired : host.paired channel = .ok devices) :
      (host.inquire wallet).matching wallet = devices.filter fun device => wallet.Owns device :=
    Inquiry.matching_of_answered (inquire_eq_answered_iff.mpr ⟨channel, reaches, paired⟩)
  refine ⟨?_, ?_, ?_, ?_, Inquiry.permission_granted_iff, ?_, ?_, fun _ _ => listed, ?_⟩
  · rw [Inquiry.permission_denied_iff, isReachable_eq_false_iff]
  · rw [isReachable_eq_false_iff]
    refine exists_congr fun error => ⟨fun refused => ?_, fun ⟨_, refused, _⟩ => refused⟩
    exact ⟨inquire_eq_refused_iff.mp refused, refused, by rw [refused]; rfl⟩
  · simp only [Inquiry.permission_unknown_iff, inquire_eq_answered_iff]
    exact exists_comm
  · simp only [Inquiry.permission_granted_iff, Inquiry.deviceId_iff]
    cases (host.inquire wallet).matching wallet <;> simp
  · rw [Inquiry.permission_granted_iff, Inquiry.isAttached_none_iff]
  · rw [Inquiry.permission_prompt_iff]
    simp only [inquire_eq_answered_iff]
    constructor
    · rintro ⟨⟨devices, channel, reaches, paired⟩, none⟩
      rw [listed reaches paired, List.filter_eq_nil_iff] at none
      exact ⟨channel, devices, reaches, paired, by simpa using none⟩
    · rintro ⟨channel, devices, reaches, paired, foreign⟩
      refine ⟨⟨devices, channel, reaches, paired⟩, ?_⟩
      rw [listed reaches paired, List.filter_eq_nil_iff]
      simpa using foreign
  · intro id discovered
    obtain ⟨device, first, rfl⟩ := Inquiry.deviceId_iff.mp discovered
    exact ⟨Inquiry.isAttached_of_mem (List.mem_of_head? first), device, first, rfl⟩

end SteadyHost

/-! Hosts that are asked in this way. -/

def FixedHost.steady (host : FixedHost) : SteadyHost :=
  ⟨fun _ => host.available, fun _ => host.paired⟩

theorem FixedHost.enumerate_eq (host : FixedHost) (wallet : Wallet) :
    host.enumerate wallet = host.steady.inquire wallet := rfl

namespace MemoryHost

theorem enumerate_answer (host : MemoryHost) (channel : Channel) :
    (host.enumerate channel).2.answer =
      if host.isAvailable channel then
        match host.enumerationFailure with
        | some message => .error (.other message)
        | none => .ok (host.pairedOn channel)
      else .error (.unavailable channel) := by
  simp only [enumerate]
  split <;> rfl

def steady (host : MemoryHost) : SteadyHost :=
  ⟨host.isAvailable, fun channel => (host.enumerate channel).2.answer⟩

theorem inquire_steady (host : MemoryHost) (wallet : Wallet) :
    (host.inquire wallet).2.answer = host.steady.inquire wallet ∧
      (host.inquire wallet).1.steady = host.steady := by
  have kept (channel : Channel) : (host.enumerate channel).1.steady = host.steady := by
    simp only [steady, enumerate_answer]
    simp only [enumerate]
    split <;> rfl
  simp only [inquire, SteadyHost.inquire]
  have same : host.steady.available = host.isAvailable := rfl
  rw [same]
  cases wallet.reach host.isAvailable with
  | error error => exact ⟨rfl, rfl⟩
  | ok channel => exact ⟨rfl, kept channel⟩

def twoWallets : MemoryHost :=
  { paired := [(.webHid, { vendorId := 0x1209, productId := 0x53c1 }),
      (.webHid, { vendorId := 0x2c97, productId := 7 }),
      (.webHid, { vendorId := 0x2c97, productId := 8 })] }

theorem permission_agrees_with_discovery_twoWallets :
    (twoWallets.inquire .ledger).2.answer.permission .ledger = .granted ∧
      (twoWallets.inquire .ledger).2.answer.deviceId .ledger = .ok (some "7") ∧
      (twoWallets.inquire .ledger).2.answer.isAttached .ledger (some "7") = true ∧
      (twoWallets.inquire .trezor).2.answer.permission .trezor = .prompt := by
  rw [(twoWallets.inquire_steady .ledger).1, (twoWallets.inquire_steady .trezor).1]
  obtain ⟨_, _, _, granted, _, _, _, _, attached⟩ :=
    SteadyHost.permission_agrees_with_discovery twoWallets.steady .ledger
  obtain ⟨_, _, _, _, _, _, prompt, _⟩ :=
    SteadyHost.permission_agrees_with_discovery twoWallets.steady .trezor
  have discovered : (twoWallets.steady.inquire .ledger).deviceId .ledger = .ok (some "7") := rfl
  exact ⟨granted.mpr ⟨"7", discovered⟩, discovered, (attached "7" discovered).1,
    prompt.mpr ⟨.webUsb, [], ⟨rfl, rfl⟩, rfl, by simp⟩⟩

end MemoryHost

end SignerLink
