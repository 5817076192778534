import SignerLink.Proofs.Error.NormalForm
import SignerLink.Proofs.Json.Ordered
import SignerLink.State.Event
import SignerLink.State.Json
/-!
The serialized connection state. It is read back exactly when the failure in it, if there is one,
comes back from its own serialized form, as every failure does that was read from a value.
-/

namespace SignerLink

open Json

namespace ConnectionState

/-! The order of the fields does not matter. -/

theorem ofTagged?_reverse (status : String) (fields : Fields) :
    ofTagged? status (.object fields.reverse) = ofTagged? status (.object fields) := by
  simp only [ofTagged?, record?_reverse]

theorem ofJson?_reverse {fields : Fields}
    (tagged : Fields.find? "status" fields.reverse = Fields.find? "status" fields) :
    ofJson? (.object fields.reverse) = ofJson? (.object fields) := by
  have erased : Fields.erase "status" fields.reverse = (Fields.erase "status" fields).reverse :=
    List.filter_reverse
  simp only [ofJson?, tagged, erased, ofTagged?_reverse]

theorem ofPairs_fields (state : ConnectionState) (encode : WalletError → Json) :
    ofPairs (state.fields encode) = .object (state.fields encode).reverse := by
  cases state with
  | awaitingApp reason app =>
      cases app <;>
        simp (disch := decide) [ofPairs, fields, status, Fields.ofList, Fields.insert_nil,
          Fields.insert_before]
  | failed reason error =>
      simp (disch := decide) [ofPairs, fields, status, Fields.ofList, Fields.insert_nil,
        Fields.insert_before]
  | disconnected | connecting | connected | ready | awaitingConfirmation => rfl

theorem find?_status (state : ConnectionState) (encode : WalletError → Json) :
    Fields.find? "status" (state.fields encode).reverse =
      Fields.find? "status" (state.fields encode) := by
  cases state with
  | awaitingApp reason app => cases app <;> simp [fields, Fields.find?]
  | failed reason error => simp [fields, Fields.find?]
  | disconnected | connecting | connected | ready | awaitingConfirmation => rfl

/-! The fields are read back one by one. -/

@[simp] theorem appReason?_name (reason : AppReason) :
    appReason? (.string reason.name) = some reason := by
  cases reason <;> rfl

@[simp] theorem errorReason?_name (reason : ErrorReason) :
    errorReason? (.string reason.name) = some reason := by
  cases reason <;> rfl

def rereadFailure (read : WalletError → Option WalletError) :
    ConnectionState → Option ConnectionState
  | .failed reason error => (read error).map (.failed reason)
  | state => some state

theorem rereadFailure_eq_some_iff (read : WalletError → Option WalletError)
    (state : ConnectionState) :
    state.rereadFailure read = some state ↔
      ∀ error, state.error? = some error → read error = some error := by
  cases state <;> simp [rereadFailure, error?]

theorem ofJson?_fields (state : ConnectionState) (encode : WalletError → Json) :
    ofJson? (.object (state.fields encode)) =
      state.rereadFailure fun error => WalletError.ofJson? (encode error) := by
  cases state with
  | awaitingApp reason app =>
      cases app <;>
        simp [fields, status, rereadFailure, ofJson?, ofTagged?, Fields.find?, Fields.erase,
          record?, Slot.read?, Slot.required, Slot.trailing, present?, nullable?, asString?]
  | failed reason error =>
      cases read : WalletError.ofJson? (encode error) <;>
        simp [fields, status, rereadFailure, ofJson?, ofTagged?, Fields.find?, Fields.erase,
          record?, Slot.read?, Slot.required, present?, asString?, read]
  | disconnected | connecting | connected | ready | awaitingConfirmation => rfl

theorem ofJson?_toJson (state : ConnectionState) :
    ofJson? state.toJson =
      state.rereadFailure fun error => WalletError.ofJson? error.toJson := by
  rw [toJson, ofPairs_fields, ofJson?_reverse (find?_status state _), ofJson?_fields]

/-- The failure in the state, if there is one, was read from a value. -/
def IsRead (state : ConnectionState) : Prop :=
  ∀ error, state.error? = some error → ∃ source, error = WalletError.reconstruct source

variable {state : ConnectionState}

theorem ofJson?_toJson_iff : ofJson? state.toJson = some state ↔ state.IsRead := by
  rw [ofJson?_toJson, rereadFailure_eq_some_iff]
  refine forall_congr' fun error => imp_congr_right fun _ => ?_
  rw [WalletError.ofJson?_toJson, Option.some_inj, ← WalletError.isNormal_iff_reconstruct]
  constructor
  · intro back
    rw [← back]
    exact WalletError.reconstruct_isNormal error.toJson
  · exact WalletError.reconstruct_toJson_of_isNormal

theorem ofJson?_document (read : state.IsRead) : ofJson? state.document = some state := by
  rw [document, ofJson?_fields, rereadFailure_eq_some_iff]
  intro error held
  exact WalletError.ofJson?_document ((error.isNormal_iff_reconstruct).mpr (read error held))

theorem target_ofState (state : ConnectionState) : (StateEvent.ofState state).target = state := by
  cases state <;> rfl

/-- A state whose failure was read from a value comes back from its serialized form, with the
fields in their own order or sorted, and from the event that asks for it; two such states that
are serialized alike are the same. -/
theorem state_round_trip (read : state.IsRead) :
    ofJson? state.toJson = some state ∧
    ofJson? state.document = some state ∧
    (StateEvent.ofState state).target = state ∧
    ∀ other : ConnectionState, other.IsRead → other.toJson = state.toJson → other = state := by
  have back := ofJson?_toJson_iff.mpr read
  refine ⟨back, ofJson?_document read, target_ofState state, ?_⟩
  intro other otherRead same
  have otherBack := ofJson?_toJson_iff.mpr otherRead
  rw [same, back] at otherBack
  exact (Option.some.inj otherBack).symm

def foreignFailure : ConnectionState :=
  .failed .unknown (WalletError.reconstruct WalletError.foreign)

theorem state_round_trip_foreignFailure :
    foreignFailure.toJson.keys = ["error", "reason", "status"] ∧
    foreignFailure.document.keys = ["status", "reason", "error"] ∧
    ofJson? foreignFailure.toJson = some foreignFailure ∧
    ofJson? foreignFailure.document = some foreignFailure := by
  have read : foreignFailure.IsRead := by
    rintro error ⟨⟩
    exact ⟨WalletError.foreign, rfl⟩
  obtain ⟨sorted, written, _, _⟩ := state_round_trip read
  exact ⟨by decide, by decide, sorted, written⟩

end ConnectionState

end SignerLink
