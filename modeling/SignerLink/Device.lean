import SignerLink.Wallet
/-!
Physical devices as the host reports them, the filters that tell whose they are, and the
notices of devices that come and go.
-/

namespace SignerLink

structure Device where
  vendorId : UInt16
  productId : UInt16
  productName : Option String := none
  deriving DecidableEq, Repr

structure DeviceFilter where
  vendorId : UInt16
  productId : Option UInt16 := none
  deriving DecidableEq, Repr

namespace DeviceFilter

def accepts (filter : DeviceFilter) (device : Device) : Bool :=
  filter.vendorId == device.vendorId &&
    match filter.productId with
    | none => true
    | some product => product == device.productId

def anyAccepts (filters : List DeviceFilter) (device : Device) : Bool :=
  filters.any (·.accepts device)

def toJson (filter : DeviceFilter) : Json :=
  match filter.productId with
  | none => .object [("vendor_id", Json.natural filter.vendorId.toNat)]
  | some product =>
      .object [("product_id", Json.natural product.toNat),
        ("vendor_id", Json.natural filter.vendorId.toNat)]

def ofJson? (json : Json) : Option DeviceFilter := do
  match ← json.record? [.required "vendor_id", .trailing "product_id"] with
  | [vendor, product] =>
      let vendor ← Json.present? (Json.asUnsigned? 16) vendor
      let product ← Json.nullable? (Json.asUnsigned? 16) product
      return ⟨vendor.toUInt16, product.map Nat.toUInt16⟩
  | _ => none

end DeviceFilter

def Wallet.filters : Wallet → List DeviceFilter
  | .ledger => [⟨0x2c97, none⟩]
  | .trezor => [⟨0x534c, some 0x0001⟩, ⟨0x1209, some 0x53c0⟩, ⟨0x1209, some 0x53c1⟩]
  | .oneKey | .lattice | .qr => []

def Wallet.accepts (wallet : Wallet) (device : Device) : Bool :=
  DeviceFilter.anyAccepts wallet.filters device

namespace Device

/-- A device is known across notices by its product number in decimal. -/
def id (device : Device) : String := toString device.productId.toNat

def toJson (device : Device) : Json :=
  match device.productName with
  | none =>
      .object [("product_id", Json.natural device.productId.toNat),
        ("vendor_id", Json.natural device.vendorId.toNat)]
  | some name =>
      .object [("product_id", Json.natural device.productId.toNat),
        ("product_name", .string name), ("vendor_id", Json.natural device.vendorId.toNat)]

def ofJson? (json : Json) : Option Device := do
  match ← json.record? [.required "vendor_id", .required "product_id",
      .trailing "product_name"] with
  | [vendor, product, name] =>
      let vendor ← Json.present? (Json.asUnsigned? 16) vendor
      let product ← Json.present? (Json.asUnsigned? 16) product
      let name ← Json.nullable? Json.asString? name
      return ⟨vendor.toUInt16, product.toUInt16, name⟩
  | _ => none

end Device

inductive PlugEvent where
  | attached (device : Device)
  | detached (device : Device)
  deriving DecidableEq, Repr

namespace PlugEvent

def device : PlugEvent → Device
  | .attached device | .detached device => device

def name : PlugEvent → String
  | .attached _ => "connected"
  | .detached _ => "disconnected"

/-- Reads a device, which has come unless told otherwise. -/
def ofJson? (json : Json) : Option PlugEvent := do
  let device ← Device.ofJson? (json.field "device")
  return if json.boolOr true "connected" then .attached device else .detached device

end PlugEvent

inductive Permission where
  | granted
  | prompt
  | denied
  | unknown
  deriving DecidableEq, Repr

def Permission.name : Permission → String
  | .granted => "granted"
  | .prompt => "prompt"
  | .denied => "denied"
  | .unknown => "unknown"

end SignerLink
