import SignerLink.Proofs.Error.NormalForm
import SignerLink.Proofs.Json.Ordered
/-!
Attributing a wallet to a failure that was decoded from a value. The attribution is laid over the
other fields of the context, where a name of a wallet that is not known may be kept: such a name
is then written beside the attributed one, and takes its place at the next boundary.
-/

namespace SignerLink

theorem ErrorContext.ofJson?_isOrdered {json : Json} {context : ErrorContext}
    (ordered : json.IsOrdered) (read : ofJson? json = some context) :
    Json.IsOrdered (.object context.extra) := by
  cases json with
  | object fields =>
      simp only [ofJson?] at read
      split at read
      next =>
        cases read
        exact ordered.erase "walletType"
      next =>
        cases read
        exact ordered
  | null | bool _ | number _ | string _ | array _ => cases read

namespace WalletError

open Json

variable {json : Json}

/-! The other fields of the context are in order whenever the value is. -/

theorem isOrdered_of_ofJson? {wire : WireError} (ordered : json.IsOrdered)
    (read : WireError.ofJson? json = some wire) :
    IsOrdered (.object (wire.context.getD {}).extra) := by
  simp only [WireError.ofJson?, Option.bind_eq_bind, Option.bind_eq_some_iff] at read
  obtain ⟨fields, record, read⟩ := read
  split at read
  next _ _ _ _ _ _ context =>
    obtain ⟨code, _, same⟩ := Option.bind_eq_some_iff.mp read
    cases same
    cases found : WireError.lenient ErrorContext.ofJson? context with
    | none => exact .empty
    | some read =>
        obtain ⟨value, held, understood⟩ := Option.bind_eq_some_iff.mp found
        refine ErrorContext.ofJson?_isOrdered (ordered.record record ?_) understood
        simp [held]
  next => cases read

theorem reconstruct_isOrdered (ordered : json.IsOrdered) :
    IsOrdered (.object (reconstruct json).context.extra) := by
  simp only [reconstruct]
  split
  next wire read =>
    have context := isOrdered_of_ofJson? ordered read
    simp only [ofWire]
    split
    next => exact context
    next => exact context.insert _ (.string _)
  next => exact .empty

theorem classify_isOrdered (raw : RawFailure) (wallet : Option Wallet) :
    IsOrdered (.object (raw.classify wallet).context.extra) := by
  rw [classify_context]
  cases raw.status with
  | none => exact .empty
  | some status =>
      exact .object _ (List.pairwise_singleton _ _) (by simp [natural, IsOrdered.number])

theorem withWallet_extra (error : WalletError) (wallet : Option Wallet) :
    (error.withWallet wallet).context.extra = error.context.extra := by
  cases wallet <;> rfl

theorem ofValue_isOrdered (ordered : json.IsOrdered) (wallet : Option Wallet) :
    IsOrdered (.object (ofValue json wallet).context.extra) := by
  simp only [ofValue]
  split
  next error found =>
    rw [withWallet_extra]
    rcases Option.or_eq_some_iff.mp found with here | ⟨_, within⟩
    · rw [typed?_eq_some here]
      exact reconstruct_isOrdered ordered
    · obtain ⟨cause, wraps, typed⟩ := Option.bind_eq_some_iff.mp within
      obtain ⟨data, carried, held⟩ := Option.bind_eq_some_iff.mp wraps
      rw [typed?_eq_some typed]
      exact reconstruct_isOrdered ((ordered.get? carried).get? held)
  next => exact classify_isOrdered _ wallet

theorem ofEnvelope_isOrdered {envelope : RpcEnvelope}
    (ordered : ∀ data, envelope.data = some data → data.IsOrdered) :
    IsOrdered (.object (ofEnvelope envelope).context.extra) := by
  simp only [ofEnvelope]
  split
  next => exact classify_isOrdered _ none
  next => exact classify_isOrdered _ none
  next data _ carried =>
    have read := reconstruct_isOrdered (ordered data carried)
    split
    · exact read
    · exact read

theorem envelope_data_isOrdered {envelope : RpcEnvelope} (ordered : json.IsOrdered)
    (read : RpcEnvelope.ofJson? json = some envelope) :
    ∀ data, envelope.data = some data → data.IsOrdered := by
  intro value carried
  simp only [RpcEnvelope.ofJson?, Option.bind_eq_bind, Option.bind_eq_some_iff] at read
  obtain ⟨fields, record, read⟩ := read
  split at read
  next _ _ data =>
    obtain ⟨_, _, read⟩ := Option.bind_eq_some_iff.mp read
    obtain ⟨_, _, read⟩ := Option.bind_eq_some_iff.mp read
    obtain ⟨_, here, same⟩ := Option.bind_eq_some_iff.mp read
    cases same
    refine ordered.record record ?_
    simp only [nullable?] at here
    split at here
    next => cases here; cases carried
    next => cases here; cases carried
    next held _ =>
      cases here
      cases carried
      simp
  next => cases read

theorem decode_isOrdered (ordered : json.IsOrdered) (wallet : Option Wallet) :
    IsOrdered (.object (decode json wallet).context.extra) := by
  simp only [decode]
  split
  next envelope read =>
    rw [withWallet_extra]
    split at read
    next => exact ofEnvelope_isOrdered (envelope_data_isOrdered ordered read)
    next => cases read
  next => exact ofValue_isOrdered ordered wallet

/-! To the context the wallet adds the attribution and nothing else. -/

theorem ofValue_context (json : Json) (wallet : Wallet) :
    (ofValue json (some wallet)).context =
      { (ofValue json none).context with wallet := some wallet } := by
  simp only [ofValue]
  split
  next => rfl
  next => rw [classify_context, classify_context]

theorem decode_context (json : Json) (wallet : Wallet) :
    (decode json (some wallet)).context =
      { (decode json none).context with wallet := some wallet } := by
  simp only [decode]
  split
  next => rfl
  next => exact ofValue_context json wallet

theorem document_nodup_iff {context : ErrorContext} {wallet : Wallet}
    (ordered : IsOrdered (.object context.extra)) (attributed : context.wallet = some wallet) :
    context.document.keys.Nodup ↔ Fields.find? "walletType" context.extra = none := by
  simp only [ErrorContext.document, attributed, keys, List.map_cons, List.nodup_cons,
    Fields.find?_eq_none_iff]
  exact and_iff_left ordered.distinct

theorem reconstruct_overlaid {error : WalletError} {context : ErrorContext} {wallet : Wallet}
    {held : Json} (normal : context.IsNormal)
    (overlaid : error.context = { context with wallet := some wallet })
    (present : Fields.find? "walletType" context.extra = some held) :
    context.wallet = none ∧ Wallet.ofJson? held = none ∧
      reconstruct error.toJson = { error with context := context } := by
  obtain absent | ⟨unattributed, value, found, unknown⟩ :=
    (ErrorContext.ofJson?_toJson_iff context).mp normal
  · cases absent.symm.trans present
  · cases found.symm.trans present
    have written : error.context.toJson = .object context.extra := by
      rw [overlaid]
      exact ErrorContext.toJson_of_present present
    have unnamed : (Fields.find? "walletType" context.extra).bind Wallet.ofJson? = none := by
      rw [present]
      exact unknown
    have plain : (⟨none, context.extra⟩ : ErrorContext) = context :=
      congrArg (ErrorContext.mk · context.extra) unattributed.symm
    refine ⟨unattributed, unknown, ?_⟩
    rw [reconstruct_toJson, written, ErrorContext.ofJson?_object_of_unnamed unnamed,
      Option.getD_some, plain]

/-- The wallet that is attributed while a value is decoded survives the next process boundary,
and is the only thing written under its name, exactly when decoding keeps no name of a wallet
that is not known; where one is kept, the attribution is lost and all else comes back. -/
theorem attribution_survives_iff (ordered : json.IsOrdered) (wallet : Wallet) :
    (decode json (some wallet)).context.wallet = some wallet ∧
    (reconstruct (decode json (some wallet)).toJson = decode json (some wallet) ↔
      Fields.find? "walletType" (decode json none).context.extra = none) ∧
    ((decode json (some wallet)).context.document.keys.Nodup ↔
      Fields.find? "walletType" (decode json none).context.extra = none) ∧
    ∀ held, Fields.find? "walletType" (decode json none).context.extra = some held →
      Wallet.ofJson? held = none ∧
      reconstruct (decode json (some wallet)).toJson =
        { decode json (some wallet) with context := (decode json none).context } := by
  have overlaid := decode_context json wallet
  have hidden {held : Json}
      (present : Fields.find? "walletType" (decode json none).context.extra = some held) :=
    reconstruct_overlaid (decode_isNormal json) overlaid present
  refine ⟨by rw [overlaid], ⟨?_, ?_⟩, ?_, fun held present => (hidden present).2⟩
  · intro back
    cases present : Fields.find? "walletType" (decode json none).context.extra with
    | none => rfl
    | some held =>
        obtain ⟨unattributed, _, changed⟩ := hidden present
        have wallets := congrArg (fun error => error.context.wallet) (changed.symm.trans back)
        simp only [overlaid, unattributed] at wallets
        cases wallets
  · intro absent
    refine reconstruct_toJson_of_isNormal (ErrorContext.isNormal_of_absent ?_)
    rw [overlaid]
    exact absent
  · have extra := decode_isOrdered ordered (some wallet)
    rw [document_nodup_iff extra (by rw [overlaid]), overlaid]

def lost (wallet : String) : Json :=
  .object [("category", .string "connection"), ("code", .string "DeviceDisconnected"),
    ("metadata", .object [("walletType", .string wallet)])]

theorem lost_isOrdered (wallet : String) : (lost wallet).IsOrdered := by
  have metadata : IsOrdered (.object [("walletType", .string wallet)]) :=
    .object _ (List.pairwise_singleton _ _) (by simp [IsOrdered.string])
  have ascending : ["category", "code", "metadata"].Pairwise (· < ·) := by decide
  refine .object _ ascending ?_
  simp [metadata, IsOrdered.string]

theorem attribution_survives_lost :
    reconstruct (decode (lost "trezor") (some .ledger)).toJson =
      decode (lost "trezor") (some .ledger) := by
  obtain ⟨_, survives, _⟩ := attribution_survives_iff (lost_isOrdered "trezor") .ledger
  exact survives.mpr (by decide)

theorem lost_keystone_hides_ledger :
    (decode (lost "keystone") (some .ledger)).context.wallet = some .ledger ∧
    (decode (lost "keystone") (some .ledger)).context.document.keys =
      ["walletType", "walletType"] ∧
    (reconstruct (decode (lost "keystone") (some .ledger)).toJson).context.wallet = none := by
  decide

end WalletError

end SignerLink
