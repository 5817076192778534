import SignerLink.Proofs.Error.NormalForm
import SignerLink.Proofs.Json.Ordered
/-!
Lenient reading, field by field. An object with a code is read as the wire error in which each
optional field says what its own key holds. The one exception is the user's message, which goes
by two keys: an object that holds both of them is not read at all.
-/

namespace SignerLink

namespace Json

theorem length_quote (text : String) : text.length < (quote text).length := by
  have kept (characters : List Char) :
      characters.length ≤ (characters.flatMap escape).length := by
    induction characters with
    | nil => exact Nat.le_refl 0
    | cons character rest ih =>
        have written : 1 ≤ (escape character).length := by
          simp only [escape]
          repeat' split
          all_goals simp
        rw [List.flatMap_cons, List.length_append, List.length_cons]
        omega
  have whole := kept text.toList
  simp only [String.length_toList] at whole
  simp only [quote, String.length_append, String.length_ofList]
  have mark : "\"".length = 1 := rfl
  omega

theorem length_compactFields {fields : Fields} {key : String} {value : Json}
    (member : (key, value) ∈ fields) :
    (compact value).length ≤ (compactFields fields).length := by
  induction fields with
  | nil => cases member
  | cons first rest ih =>
      obtain ⟨other, held⟩ := first
      cases rest with
      | nil =>
          cases List.mem_singleton.mp member
          simp only [compactFields, String.length_append]
          omega
      | cons second rest =>
          rcases List.mem_cons.mp member with here | later
          · cases here
            simp only [compactFields, String.length_append]
            omega
          · have within := ih later
            simp only [compactFields, String.length_append] at within ⊢
            omega

theorem length_compact_object {fields : Fields} {key text : String}
    (held : Fields.find? key fields = some (.string text)) :
    text.length < (compact (.object fields)).length := by
  have quoted := length_quote text
  have within := length_compactFields (Fields.mem_of_find? held)
  simp only [compact, String.length_append] at within ⊢
  omega

end Json

namespace WireError

open Json

/-- Each field as its own key says, whatever the others hold. -/
def ofFields (fields : Fields) (code : String) : WireError where
  code := code
  message := (Fields.find? "message" fields).bind asString?
  severity := (Fields.find? "severity" fields).bind severity?
  category := (Fields.find? "category" fields).bind category?
  userMessage :=
    ((Fields.find? "userMessage" fields).or (Fields.find? "user_message" fields)).bind asString?
  cause := (Fields.find? "cause" fields).bind asString?
  context := (Fields.find? "metadata" fields).bind ErrorContext.ofJson?

def isSpelledTwice (fields : Fields) : Bool :=
  (Fields.find? "userMessage" fields).isSome && (Fields.find? "user_message" fields).isSome

theorem ofJson?_object {fields : Fields} (distinct : (fields.map Prod.fst).Nodup) :
    ofJson? (.object fields) =
      if isSpelledTwice fields then none
      else ((Fields.find? "code" fields).bind asString?).map (ofFields fields) := by
  have differ : "userMessage" ≠ "user_message" := by decide
  have either := Slot.read?_either distinct differ true
  have single := Slot.read?_single distinct
  cases twice : isSpelledTwice fields with
  | true =>
      rw [isSpelledTwice] at twice
      simp [ofJson?, record?, slots, Slot.required, Slot.trailing, single, either, twice]
  | false =>
      rw [isSpelledTwice] at twice
      cases code : Fields.find? "code" fields with
      | none =>
          simp [ofJson?, record?, slots, Slot.required, Slot.trailing, single, either, twice,
            present?, code]
      | some value =>
          cases text : asString? value <;>
            simp [ofJson?, record?, slots, Slot.required, Slot.trailing, single, either, twice,
              present?, code, text, ofFields, lenient]

end WireError

namespace WalletError

open Json

variable {fields : Fields} {code : String}

theorem ofWire_code (wire : WireError) :
    (ofWire wire).code = (ErrorCode.ofName? wire.code).getD .unknown := rfl

theorem ofWire_of_unnamed {wire : WireError} (unnamed : ErrorCode.ofName? wire.code = none) :
    Fields.find? "originalCode" (ofWire wire).context.extra = some (.string wire.code) := by
  simp only [ofWire, unnamed]
  exact Fields.find?_insert _

theorem reconstruct_object (distinct : (fields.map Prod.fst).Nodup)
    (coded : Fields.find? "code" fields = some (.string code)) :
    reconstruct (.object fields) =
      if WireError.isSpelledTwice fields then
        (ofCode .unknown).withMessage (compact (.object fields))
      else ofWire (WireError.ofFields fields code) := by
  have read : WireError.ofJson? (.object fields) =
      if WireError.isSpelledTwice fields then none
      else some (WireError.ofFields fields code) := by
    rw [WireError.ofJson?_object distinct, coded]
    rfl
  rw [reconstruct, read]
  cases WireError.isSpelledTwice fields <;> rfl

theorem compact_object_ne (fields : Fields) :
    compact (.object fields) ≠ ErrorCode.unknown.userMessage := by
  intro same
  have first := congrArg (fun text => text.toList.head?) same
  simp only [compact, String.toList_append] at first
  cases first

theorem ofWire_message_ne
    (unknown : (ofWire (WireError.ofFields fields code)).code = .unknown) :
    (ofWire (WireError.ofFields fields code)).message ≠ compact (.object fields) := by
  have shorter {key text : String}
      (held : (Fields.find? key fields).bind asString? = some text) :
      text ≠ compact (.object fields) := by
    intro same
    have longer := length_compact_object (Fields.find?_of_asString? held)
    rw [← same] at longer
    exact Nat.lt_irrefl _ longer
  have spelled {text : String} (held : (WireError.ofFields fields code).userMessage = some text) :
      text ≠ compact (.object fields) := by
    cases found : Fields.find? "userMessage" fields with
    | none =>
        simp only [WireError.ofFields, found, Option.none_or] at held
        exact shorter held
    | some value =>
        simp only [WireError.ofFields, found, Option.some_or] at held
        exact shorter (found ▸ held)
  rw [ofWire_code] at unknown
  simp only [ofWire, unknown]
  cases message : (WireError.ofFields fields code).message with
  | some text => exact shorter message
  | none =>
      cases userMessage : (WireError.ofFields fields code).userMessage with
      | some text => exact spelled userMessage
      | none => exact (compact_object_ne fields).symm

/-- An object with a code is read field by field unless it holds the user's message under both
of its keys; then the code is lost, and the text of the whole object is the message. -/
theorem reconstruct_fieldwise_iff (ordered : IsOrdered (.object fields))
    (coded : Fields.find? "code" fields = some (.string code)) :
    (reconstruct (.object fields) = ofWire (WireError.ofFields fields code) ↔
      WireError.isSpelledTwice fields = false) ∧
    (ofWire (WireError.ofFields fields code)).code =
      (ErrorCode.ofName? code).getD .unknown ∧
    (ErrorCode.ofName? code = none →
      Fields.find? "originalCode" (ofWire (WireError.ofFields fields code)).context.extra =
        some (.string code)) ∧
    (WireError.isSpelledTwice fields = true →
      reconstruct (.object fields) =
        (ofCode .unknown).withMessage (compact (.object fields))) := by
  have read := reconstruct_object ordered.distinct coded
  refine ⟨?_, rfl, fun unnamed => ofWire_of_unnamed unnamed, ?_⟩
  · cases twice : WireError.isSpelledTwice fields with
    | false =>
        rw [twice] at read
        exact iff_of_true read rfl
    | true =>
        rw [twice] at read
        refine iff_of_false (fun same => ?_) Bool.noConfusion
        have lost := same.symm.trans read
        exact ofWire_message_ne (congrArg WalletError.code lost)
          (congrArg WalletError.message lost)
  · intro twice
    rw [twice] at read
    exact read

def sunspots : Fields :=
  [("code", .string "Sunspots"), ("severity", .string "blinding"),
    ("user_message", .string "Look away")]

theorem reconstruct_fieldwise_sunspots :
    (reconstruct (.object sunspots)).code = .unknown ∧
    (reconstruct (.object sunspots)).severity = .error ∧
    (reconstruct (.object sunspots)).message = "Look away" ∧
    Fields.find? "originalCode" (reconstruct (.object sunspots)).context.extra =
      some (.string "Sunspots") := by
  have ordered : IsOrdered (.object sunspots) := by
    refine .object _ (by decide) ?_
    simp [sunspots, IsOrdered.string]
  have coded : Fields.find? "code" sunspots = some (.string "Sunspots") := rfl
  obtain ⟨fieldwise, code, original, _⟩ := reconstruct_fieldwise_iff ordered coded
  rw [fieldwise.mpr rfl]
  exact ⟨code.trans rfl, rfl, rfl, original rfl⟩

def twiceSpelled : Json :=
  .object [("code", .string "DeviceDisconnected"), ("userMessage", .string "gone"),
    ("user_message", .string "gone")]

theorem twiceSpelled_loses_code :
    (reconstruct twiceSpelled).code = .unknown ∧
    ¬∃ wire : WireError, wire.code = "DeviceDisconnected" ∧
      reconstruct twiceSpelled = ofWire wire := by
  have lost : (reconstruct twiceSpelled).code = .unknown := by decide
  refine ⟨lost, fun ⟨wire, code, same⟩ => ?_⟩
  have kept : (ofWire wire).code = .deviceDisconnected := by
    rw [ofWire_code, code]
    rfl
  rw [same, kept] at lost
  cases lost

end WalletError

end SignerLink
