import SignerLink.Proofs.Error.RoundTrip
/-!
The normal form of failures. Whatever is read from a value comes back unchanged from its own
serialized form, so that further process boundaries no longer matter, nor does which of the
readers is used.
-/

namespace SignerLink

namespace ErrorContext

open Json

def IsNormal (context : ErrorContext) : Prop := ofJson? context.toJson = some context

theorem isNormal_of_absent {context : ErrorContext}
    (absent : Fields.find? "walletType" context.extra = none) : context.IsNormal :=
  ofJson?_toJson_of_absent absent

theorem isNormal_of_ofJson? {json : Json} {context : ErrorContext}
    (read : ofJson? json = some context) : context.IsNormal := by
  cases json with
  | object fields =>
      cases named : (Fields.find? "walletType" fields).bind Wallet.ofJson? with
      | none =>
          rw [ofJson?_object_of_unnamed named] at read
          cases read
          exact ofJson?_object_of_unnamed named
      | some wallet =>
          rw [ofJson?_object_of_named named] at read
          cases read
          exact isNormal_of_absent (Fields.find?_erase fields)
  | null | bool _ | number _ | string _ | array _ => cases read

theorem IsNormal.insert {context : ErrorContext} (normal : context.IsNormal) {key : String}
    (other : key ≠ "walletType") (value : Json) :
    IsNormal { context with extra := Fields.insert key value context.extra } := by
  rw [IsNormal, ofJson?_toJson_iff] at normal ⊢
  simpa only [Fields.find?_insert_of_ne other] using normal

theorem ofJson?_document {context : ErrorContext} (normal : context.IsNormal) :
    ofJson? context.document = some context := by
  rw [IsNormal, ofJson?_toJson_iff] at normal
  obtain ⟨wallet, extra⟩ := context
  cases wallet with
  | none =>
      rcases normal with absent | ⟨_, value, present, unknown⟩
      · exact ofJson?_object_of_unnamed (by simp [absent])
      · exact ofJson?_object_of_unnamed (by simp [present, unknown])
  | some wallet =>
      have absent : Fields.find? "walletType" extra = none := by simpa using normal
      have named : (Fields.find? "walletType" (("walletType", wallet.toJson) :: extra)).bind
          Wallet.ofJson? = some wallet := by
        cases wallet <;> rfl
      have kept : Fields.erase "walletType" (("walletType", wallet.toJson) :: extra) = extra := by
        simpa [Fields.erase] using Fields.erase_of_absent absent
      simp only [document]
      rw [ofJson?_object_of_named named, kept]

end ErrorContext

namespace WireError

open Json

theorem ofJson?_document {error : WalletError} (normal : error.context.IsNormal) :
    ofJson? (ofError error).document = some (ofError error) := by
  have written := ErrorContext.ofJson?_document normal
  cases cause : error.cause <;> cases empty : error.context.isEmpty <;>
    simp [ofJson?, document, fields, record?, slots, Slot.read?, Slot.required, Slot.trailing,
      present?, asString?, lenient, ofError, cause, empty, written]

end WireError

namespace WalletError

open Json

theorem reconstruct_toJson_of_isNormal {error : WalletError} (normal : error.context.IsNormal) :
    reconstruct error.toJson = error := by
  rw [reconstruct_toJson, normal, Option.getD_some]

theorem ofWire_ofError (error : WalletError) : ofWire (WireError.ofError error) = error := by
  have context : (WireError.ofError error).context.getD {} = error.context := by
    simp only [WireError.ofError]
    split
    next empty => exact (context_of_isEmpty empty).symm
    next => rfl
  simp only [ofWire, context]
  simp [WireError.ofError, ofName?_name]

theorem ofJson?_document {error : WalletError} (normal : error.context.IsNormal) :
    ofJson? error.document = some error := by
  rw [ofJson?, document, WireError.ofJson?_document normal, Option.map_some, ofWire_ofError]

theorem ofJson?_toJson (error : WalletError) :
    ofJson? error.toJson = some (reconstruct error.toJson) := by
  simp only [reconstruct, ofJson?, toJson, WireError.ofJson?_ofError, Option.map_some]

/-! Whatever is read is normal. -/

theorem context_isNormal_of_ofJson? {json : Json} {wire : WireError}
    (read : WireError.ofJson? json = some wire) : (wire.context.getD {}).IsNormal := by
  have field : ∃ field, wire.context = WireError.lenient ErrorContext.ofJson? field := by
    simp only [WireError.ofJson?, Option.bind_eq_bind, Option.bind_eq_some_iff] at read
    obtain ⟨fields, _, read⟩ := read
    split at read
    next =>
      obtain ⟨code, _, same⟩ := Option.bind_eq_some_iff.mp read
      cases same
      exact ⟨_, rfl⟩
    next => cases read
  obtain ⟨field, same⟩ := field
  cases found : wire.context with
  | none => exact ErrorContext.isNormal_of_absent rfl
  | some context =>
      obtain ⟨_, _, read⟩ := Option.bind_eq_some_iff.mp (same.symm.trans found)
      exact ErrorContext.isNormal_of_ofJson? read

theorem ofWire_isNormal {wire : WireError} (normal : (wire.context.getD {}).IsNormal) :
    (ofWire wire).context.IsNormal := by
  simp only [ofWire]
  split
  next => exact normal
  next => exact normal.insert (by decide) _

theorem reconstruct_isNormal (json : Json) : (reconstruct json).context.IsNormal := by
  simp only [reconstruct]
  split
  next wire read => exact ofWire_isNormal (context_isNormal_of_ofJson? read)
  next => exact ErrorContext.isNormal_of_absent rfl

theorem isNormal_iff_reconstruct (error : WalletError) :
    error.context.IsNormal ↔ ∃ source, error = reconstruct source := by
  constructor
  · intro normal
    exact ⟨error.toJson, (reconstruct_toJson_of_isNormal normal).symm⟩
  · rintro ⟨source, rfl⟩
    exact reconstruct_isNormal source

theorem classify_context (raw : RawFailure) (wallet : Option Wallet) :
    (raw.classify wallet).context =
      ⟨wallet, raw.status.toList.map fun status => ("statusCode", natural status.toNat)⟩ := by
  have bare : ((if raw.message.isEmpty then (ofCode (raw.code wallet)).withWallet wallet
      else ((ofCode (raw.code wallet)).withWallet wallet).withMessage
        raw.message).context) = ⟨wallet, []⟩ := by
    cases wallet <;> split <;> rfl
  simp only [RawFailure.classify]
  split
  next unread => rw [bare, unread]; rfl
  next status read => rw [withField, bare, read]; rfl

theorem classify_isNormal (raw : RawFailure) (wallet : Option Wallet) :
    (raw.classify wallet).context.IsNormal := by
  refine ErrorContext.isNormal_of_absent ?_
  rw [classify_context]
  cases raw.status <;> rfl

theorem typed?_eq_some {json : Json} {error : WalletError} (typed : typed? json = some error) :
    error = reconstruct json := by
  simp only [typed?, Option.bind_eq_bind, Option.bind_eq_some_iff] at typed
  obtain ⟨_, _, typed⟩ := typed
  split at typed
  next => cases typed; rfl
  next => cases typed

theorem ofValue_isNormal (json : Json) : (ofValue json none).context.IsNormal := by
  simp only [ofValue]
  split
  next error found =>
    have read : ∃ source, typed? source = some error := by
      rcases Option.or_eq_some_iff.mp found with here | ⟨_, within⟩
      · exact ⟨json, here⟩
      · obtain ⟨cause, _, typed⟩ := Option.bind_eq_some_iff.mp within
        exact ⟨cause, typed⟩
    obtain ⟨source, typed⟩ := read
    rw [typed?_eq_some typed]
    exact reconstruct_isNormal source
  next => exact classify_isNormal _ none

theorem ofEnvelope_isNormal (envelope : RpcEnvelope) :
    (ofEnvelope envelope).context.IsNormal := by
  simp only [ofEnvelope]
  split
  next => exact classify_isNormal _ none
  next => exact classify_isNormal _ none
  next data _ _ =>
    have read : (reconstruct data).context.IsNormal := reconstruct_isNormal data
    split
    · exact read
    · exact read

theorem decode_isNormal (json : Json) : (decode json none).context.IsNormal := by
  simp only [decode]
  split
  next envelope _ => exact ofEnvelope_isNormal envelope
  next => exact ofValue_isNormal json

/-! How a serialized failure is recognized. -/

theorem get?_toJson (error : WalletError) :
    error.toJson.get? "code" = some (.string error.code.name) ∧
      error.toJson.get? "category" = some (.string error.category.name) := by
  rw [toJson, WireError.toJson_ofError]
  cases error.cause <;> simp [get?, Fields.find?]

theorem typed?_toJson (error : WalletError) :
    typed? error.toJson = some (reconstruct error.toJson) := by
  obtain ⟨code, category⟩ := get?_toJson error
  simp [typed?, code, category, asString?, ofName?_name]

theorem ofValue_toJson (error : WalletError) (wallet : Option Wallet) :
    ofValue error.toJson wallet = (reconstruct error.toJson).withWallet wallet := by
  simp only [ofValue, typed?_toJson, Option.some_or]

theorem decode_toJson (error : WalletError) (wallet : Option Wallet) :
    decode error.toJson wallet = (reconstruct error.toJson).withWallet wallet := by
  have plain : ((error.toJson.get? "code").bind asSigned64?).isSome = false := by
    rw [(get?_toJson error).1]
    rfl
  simp only [decode, plain, Bool.false_eq_true, if_false, ofValue_toJson]

theorem ofValue_wrapped {wrapper : Json} {error : WalletError} (wallet : Option Wallet)
    (uncoded : (wrapper.get? "code").bind asString? = none)
    (wraps : wrappedCause? wrapper = some error.toJson) :
    ofValue wrapper wallet = (reconstruct error.toJson).withWallet wallet := by
  have untyped : typed? wrapper = none := by
    simp only [typed?, uncoded, Option.bind_eq_bind, Option.bind_none]
  simp only [ofValue, untyped, wraps, Option.bind_some, typed?_toJson, Option.none_or]

theorem envelope_toJson (error : WalletError) :
    (RpcEnvelope.ofError error).toJson = .object
      [("code", .integer RpcEnvelope.internalError), ("data", error.toJson),
        ("message", .string error.message)] := by
  simp (disch := decide) [RpcEnvelope.toJson, RpcEnvelope.ofError, ofPairs, Fields.ofList,
    Fields.insert_nil, Fields.insert_before, Fields.insert_after]

theorem asSigned64?_internalError :
    asSigned64? (.integer RpcEnvelope.internalError) = some RpcEnvelope.internalError := by
  decide

theorem envelope_ofJson? (error : WalletError) :
    RpcEnvelope.ofJson? (RpcEnvelope.ofError error).toJson = some (RpcEnvelope.ofError error) := by
  have data : nullable? some (some error.toJson) = some (some error.toJson) := by
    rw [toJson, WireError.toJson_ofError]
    rfl
  rw [envelope_toJson]
  simp [RpcEnvelope.ofJson?, record?, Slot.read?, Slot.required, Slot.trailing, present?,
    asString?, asSigned64?_internalError, data, RpcEnvelope.ofError]

theorem decode_envelope (error : WalletError) (wallet : Option Wallet) :
    decode (RpcEnvelope.ofError error).toJson wallet =
      (reconstruct error.toJson).withWallet wallet := by
  have coded : (((RpcEnvelope.ofError error).toJson.get? "code").bind asSigned64?).isSome := by
    rw [envelope_toJson, get?, Fields.find?, if_pos rfl, Option.bind_some,
      asSigned64?_internalError]
    rfl
  simp only [decode, coded, if_true, envelope_ofJson?, ofEnvelope_ofError]

/-! Readers. -/

/-- The ways in which a failure is read from a value when no wallet is attributed. -/
inductive Reader where
  | reconstruct
  | classify
  | decode

def Reader.read : Reader → Json → WalletError
  | .reconstruct, json => WalletError.reconstruct json
  | .classify, json => ofValue json none
  | .decode, json => WalletError.decode json none

theorem Reader.read_isNormal (reader : Reader) (json : Json) :
    (reader.read json).context.IsNormal := by
  cases reader with
  | reconstruct => exact reconstruct_isNormal json
  | classify => exact ofValue_isNormal json
  | decode => exact decode_isNormal json

theorem Reader.read_toJson (reader : Reader) {error : WalletError}
    (normal : error.context.IsNormal) : reader.read error.toJson = error := by
  have same := reconstruct_toJson_of_isNormal normal
  cases reader with
  | reconstruct => exact same
  | classify => exact (ofValue_toJson error none).trans same
  | decode => exact (decode_toJson error none).trans same

/-- A failure that was read from any value crosses any number of further process boundaries
unchanged, read by the same reader each time or by others. -/
theorem read_reaches_normal_form (first : Reader) (json : Json) (further : List Reader) :
    further.foldl (fun error reader => reader.read error.toJson) (first.read json) =
      first.read json := by
  have normal := first.read_isNormal json
  induction further with
  | nil => rfl
  | cons reader rest ih =>
      rw [List.foldl_cons, reader.read_toJson normal]
      exact ih

/-- The failure is read as it is, and with a wallet only the attribution changes. -/
structure Recovers (error : WalletError) (read : Option Wallet → WalletError) : Prop where
  plain : read none = error
  attributed : ∀ wallet, read (some wallet) =
    { error with context := { error.context with wallet := some wallet } }

theorem recovers_of_isNormal {error : WalletError} (normal : error.context.IsNormal)
    {read : Option Wallet → WalletError}
    (same : ∀ wallet, read wallet = (reconstruct error.toJson).withWallet wallet) :
    error.Recovers read := by
  have back := reconstruct_toJson_of_isNormal normal
  constructor
  case plain =>
    rw [same, back]
    rfl
  case attributed =>
    intro wallet
    rw [same, back]
    rfl

/-- Every way in recovers a failure that was once reconstructed: from its serialized form, from
the error object of a remote call, and from an object without a code of its own that wraps the
serialized form under `data.cause`. -/
theorem entry_points_recover {error : WalletError} {source : Json}
    (origin : error = reconstruct source) :
    reconstruct error.toJson = error ∧
    error.Recovers (ofValue error.toJson) ∧
    error.Recovers (decode error.toJson) ∧
    error.Recovers (decode (RpcEnvelope.ofError error).toJson) ∧
    ∀ wrapper : Json, (wrapper.get? "code").bind asString? = none →
      (wrapper.get? "data").bind (·.get? "cause") = some error.toJson →
      error.Recovers (ofValue wrapper) := by
  have normal : error.context.IsNormal := origin ▸ reconstruct_isNormal source
  refine ⟨reconstruct_toJson_of_isNormal normal, ?_, ?_, ?_, ?_⟩
  · exact recovers_of_isNormal normal (ofValue_toJson error)
  · exact recovers_of_isNormal normal (decode_toJson error)
  · exact recovers_of_isNormal normal (decode_envelope error)
  · intro wrapper uncoded wraps
    exact recovers_of_isNormal normal fun wallet => ofValue_wrapped wallet uncoded wraps

def foreign : Json :=
  .object [("code", .string "Sunspots"),
    ("metadata", .object [("walletType", .string "keystone")])]

def wrapped : Json :=
  .object [("code", natural 7), ("data", .object [("cause", (reconstruct foreign).toJson)]),
    ("message", .string "User rejected the request")]

theorem entry_points_recover_foreign :
    (reconstruct foreign).context.extra =
      [("originalCode", .string "Sunspots"), ("walletType", .string "keystone")] ∧
    ofValue wrapped none = reconstruct foreign ∧
    (decode (reconstruct foreign).toJson (some .trezor)).context =
      ⟨some .trezor, (reconstruct foreign).context.extra⟩ := by
  have origin : reconstruct foreign = reconstruct foreign := rfl
  obtain ⟨_, _, decoded, _, wrapping⟩ := entry_points_recover origin
  refine ⟨by decide, (wrapping wrapped rfl rfl).plain, ?_⟩
  rw [decoded.attributed]

end WalletError

end SignerLink
