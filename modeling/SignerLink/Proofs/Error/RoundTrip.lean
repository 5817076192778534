import SignerLink.Error.Classify
import SignerLink.Proofs.Json.Fields
/-!
Failures that cross a process boundary. The serialized form of a failure is read back field by
field; only the context can come back changed, and it does so exactly where one of its other
fields is taken for the attributed wallet or hides it.
-/

namespace SignerLink

namespace ErrorContext

open Json

theorem ofJson?_object_of_unnamed {fields : Fields}
    (unnamed : (Fields.find? "walletType" fields).bind Wallet.ofJson? = none) :
    ofJson? (.object fields) = some ⟨none, fields⟩ := by
  simp only [ofJson?, unnamed]

theorem ofJson?_object_of_named {fields : Fields} {wallet : Wallet}
    (named : (Fields.find? "walletType" fields).bind Wallet.ofJson? = some wallet) :
    ofJson? (.object fields) = some ⟨some wallet, Fields.erase "walletType" fields⟩ := by
  simp only [ofJson?, named]

theorem ofJson?_toJson_isSome (context : ErrorContext) : (ofJson? context.toJson).isSome := by
  have object : ∃ fields, context.toJson = .object fields := by
    simp only [toJson]
    split
    · exact ⟨_, rfl⟩
    · split <;> exact ⟨_, rfl⟩
  obtain ⟨fields, object⟩ := object
  rw [object, ofJson?]
  split <;> rfl

theorem ofJson?_toJson_of_absent {context : ErrorContext}
    (absent : Fields.find? "walletType" context.extra = none) :
    ofJson? context.toJson = some context := by
  obtain ⟨wallet, extra⟩ := context
  cases wallet with
  | none => exact ofJson?_object_of_unnamed (by simp [absent])
  | some wallet =>
      have named : (Fields.find? "walletType"
          (Fields.insert "walletType" wallet.toJson extra)).bind Wallet.ofJson? = some wallet := by
        rw [Fields.find?_insert]
        cases wallet <;> rfl
      simp only [toJson, absent]
      rw [ofJson?_object_of_named named, Fields.erase_insert_of_absent absent]

theorem toJson_of_present {context : ErrorContext} {value : Json}
    (present : Fields.find? "walletType" context.extra = some value) :
    context.toJson = .object context.extra := by
  cases attributed : context.wallet <;> simp only [toJson, attributed, present]

theorem ofJson?_toJson_iff (context : ErrorContext) :
    ofJson? context.toJson = some context ↔
      Fields.find? "walletType" context.extra = none ∨
        context.wallet = none ∧ ∃ value,
          Fields.find? "walletType" context.extra = some value ∧ Wallet.ofJson? value = none := by
  cases present : Fields.find? "walletType" context.extra with
  | none => exact iff_of_true (ofJson?_toJson_of_absent present) (.inl rfl)
  | some value =>
      rw [toJson_of_present present]
      have found : (Fields.find? "walletType" context.extra).bind Wallet.ofJson? =
          Wallet.ofJson? value := by rw [present, Option.bind_some]
      cases read : Wallet.ofJson? value with
      | none =>
          rw [ofJson?_object_of_unnamed (found.trans read)]
          obtain ⟨wallet, extra⟩ := context
          simp [read, eq_comm]
      | some wallet =>
          rw [ofJson?_object_of_named (found.trans read)]
          simp only [reduceCtorEq, Option.some.injEq, exists_eq_left', read, and_false, or_false,
            iff_false]
          -- What was taken for the wallet is missing from the other fields.
          intro same
          have erased :
              Fields.find? "walletType" (Fields.erase "walletType" context.extra) = none :=
            Fields.find?_erase context.extra
          have kept : Fields.erase "walletType" context.extra = context.extra :=
            congrArg ErrorContext.extra same
          rw [kept, present] at erased
          cases erased

end ErrorContext

namespace WireError

open Json

@[simp] theorem severity?_name (severity : Severity) :
    severity? (.string severity.name) = some severity := by
  cases severity <;> rfl

@[simp] theorem category?_name (category : Category) :
    category? (.string category.name) = some category := by
  cases category <;> rfl

theorem toJson_ofError (error : WalletError) :
    (ofError error).toJson = .object
      ([("category", .string error.category.name)]
        ++ error.cause.toList.map (fun cause => ("cause", .string cause))
        ++ [("code", .string error.code.name), ("message", .string error.message)]
        ++ (ofError error).context.toList.map (fun context => ("metadata", context.toJson))
        ++ [("severity", .string error.severity.name),
          ("userMessage", .string error.userMessage)]) := by
  cases cause : error.cause <;> cases empty : error.context.isEmpty <;>
    simp (disch := decide) [toJson, ofPairs, fields, ofError, cause, empty, Fields.ofList,
      Fields.insert_nil, Fields.insert_before, Fields.insert_after]

theorem ofJson?_ofError (error : WalletError) :
    ofJson? (ofError error).toJson =
      some { ofError error with
        context := (ofError error).context.bind fun context =>
          ErrorContext.ofJson? context.toJson } := by
  rw [toJson_ofError]
  cases cause : error.cause <;> cases empty : error.context.isEmpty <;>
    simp [ofJson?, record?, slots, Slot.read?, Slot.required, Slot.trailing, present?, asString?,
      lenient, ofError, cause, empty]

end WireError

namespace WalletError

theorem ofName?_name (code : ErrorCode) : ErrorCode.ofName? code.name = some code := by
  cases code <;> rfl

theorem context_of_isEmpty {context : ErrorContext} (empty : context.isEmpty = true) :
    context = {} := by
  obtain ⟨wallet, extra⟩ := context
  simp_all [ErrorContext.isEmpty]

theorem reconstruct_toJson (error : WalletError) :
    reconstruct error.toJson =
      { error with context := (ErrorContext.ofJson? error.context.toJson).getD {} } := by
  rw [reconstruct, toJson, WireError.ofJson?_ofError]
  cases empty : error.context.isEmpty with
  | false => simp [ofWire, WireError.ofError, empty, ofName?_name]
  | true =>
      have read : ErrorContext.ofJson? error.context.toJson = some {} := by
        rw [context_of_isEmpty empty]
        rfl
      simp [ofWire, WireError.ofError, empty, ofName?_name, read]

/-- A remote call carries a failure exactly as its serialized form does. -/
theorem ofEnvelope_ofError (error : WalletError) :
    ofEnvelope (RpcEnvelope.ofError error) = reconstruct error.toJson := by
  have same : (reconstruct error.toJson).message = error.message := by rw [reconstruct_toJson]
  have data : ∃ fields, error.toJson = .object fields :=
    ⟨_, WireError.toJson_ofError error⟩
  obtain ⟨fields, object⟩ := data
  rw [object] at same ⊢
  simp only [ofEnvelope, RpcEnvelope.ofError, object, same]
  split
  · rw [← same]
    rfl
  · rfl

/-- A failure survives its serialized form and a remote call exactly when no other field of its
context is named `walletType`, or there is no wallet and that field does not name one. -/
theorem wire_round_trip_iff (error : WalletError) :
    (reconstruct error.toJson = error ∧ ofEnvelope (RpcEnvelope.ofError error) = error) ↔
      Json.Fields.find? "walletType" error.context.extra = none ∨
        error.context.wallet = none ∧ ∃ value,
          Json.Fields.find? "walletType" error.context.extra = some value ∧
            Wallet.ofJson? value = none := by
  rw [ofEnvelope_ofError, and_self, ← ErrorContext.ofJson?_toJson_iff, reconstruct_toJson]
  obtain ⟨context, read⟩ := Option.isSome_iff_exists.mp error.context.ofJson?_toJson_isSome
  rw [read, Option.getD_some, Option.some.injEq]
  constructor
  · exact congrArg WalletError.context
  · rintro rfl
    rfl

end WalletError

end SignerLink
