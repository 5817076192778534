import SignerLink.Proofs.Error.Lenient
/-!
The error object of a remote call around a recognized cause. Classifying the object looks for the
cause under `data.cause`; unwrapping it reads `data` itself as the failure, so that the cause
counts for nothing beside what `data` states as its own code.
-/

namespace SignerLink

namespace WalletError

open Json

variable {fields data : Fields} {cause : Json} {code : ErrorCode} {number : Int}
  {message : String}

@[simp] theorem withWallet_code (error : WalletError) (wallet : Option Wallet) :
    (error.withWallet wallet).code = error.code := by
  cases wallet <;> rfl

theorem classify_code (raw : RawFailure) (wallet : Option Wallet) :
    (raw.classify wallet).code = raw.code wallet := by
  have named : (if raw.message.isEmpty then (ofCode (raw.code wallet)).withWallet wallet
      else ((ofCode (raw.code wallet)).withWallet wallet).withMessage raw.message).code =
        raw.code wallet := by
    split <;> exact withWallet_code _ wallet
  simp only [RawFailure.classify]
  split <;> exact named

/-- The code of a cause that is a serialized failure or holds a known status word. -/
def causeCode? (cause : Json) : Option ErrorCode :=
  match typed? cause with
  | some error => some error.code
  | none =>
      ((cause.get? "statusCode").bind fun value =>
        (value.asUnsigned? 16).map Nat.toUInt16).bind ErrorCode.ofStatusWord?

/-- The code that an object states as its own, read leniently. -/
def statedCode (fields : Fields) : ErrorCode :=
  if WireError.isSpelledTwice fields then .unknown
  else (((Fields.find? "code" fields).bind asString?).bind ErrorCode.ofName?).getD .unknown

theorem causeCode?_toJson (error : WalletError) : causeCode? error.toJson = some error.code := by
  simp only [causeCode?, typed?_toJson, reconstruct_toJson]

theorem causeCode?_of_statusWord {status : UInt16} (untyped : typed? cause = none)
    (held : cause.get? "statusCode" = some (natural status.toNat)) :
    causeCode? cause = ErrorCode.ofStatusWord? status := by
  have bound : status.toNat ≤ 65535 := Nat.le_of_lt_succ status.toNat_lt
  have read : asUnsigned? 16 (natural status.toNat) = some status.toNat := by
    simp only [asUnsigned?, natural, asIntegerIn?]
    rw [if_pos]
    · rfl
    · simp only [Bool.and_eq_true, decide_eq_true_eq]
      exact ⟨Int.natCast_nonneg _, Int.ofNat_le.mpr bound⟩
  simp [causeCode?, untyped, held, read]

theorem reconstruct_code (distinct : (fields.map Prod.fst).Nodup) :
    (reconstruct (.object fields)).code = statedCode fields := by
  cases stated : (Fields.find? "code" fields).bind asString? with
  | none =>
      have unread : WireError.ofJson? (.object fields) = none := by
        rw [WireError.ofJson?_object distinct, stated]
        split <;> rfl
      simp only [reconstruct, unread, statedCode, stated]
      split <;> rfl
  | some text =>
      rw [reconstruct_object distinct (Fields.find?_of_asString? stated), statedCode, stated]
      split <;> rfl

theorem ofEnvelope_code (distinct : (data.map Prod.fst).Nodup) :
    (ofEnvelope ⟨number, message, some (.object data)⟩).code = statedCode data := by
  simp only [ofEnvelope]
  split <;> exact reconstruct_code distinct

theorem ofValue_code_of_cause {json : Json} (wallet : Option Wallet)
    (uncoded : (json.get? "code").bind asString? = none) (wraps : wrappedCause? json = some cause)
    (recognized : causeCode? cause = some code) : (ofValue json wallet).code = code := by
  have untyped : typed? json = none := by
    simp only [typed?, uncoded, Option.bind_eq_bind, Option.bind_none]
  cases typed : typed? cause with
  | some error =>
      simp only [causeCode?, typed, Option.some.injEq] at recognized
      simp only [ofValue, untyped, wraps, Option.bind_some, typed, Option.none_or,
        withWallet_code, recognized]
  | none =>
      simp only [causeCode?, typed] at recognized
      obtain ⟨status, held, known⟩ := Option.bind_eq_some_iff.mp recognized
      have first : statusOf? json = some status := by
        simp only [statusOf?, wraps, Option.bind_some, List.findSome?_cons, held]
      simp only [ofValue, untyped, wraps, Option.bind_some, typed, Option.none_or, classify_code,
        RawFailure.code, first, known, Option.some_or, Option.getD_some]

/-- Unwrapping the error object of a remote call keeps a recognized cause only where `data`
states the same code as its own, or where the number of the object is none that such an object
can have; classifying the object always keeps it. -/
theorem unwrapping_keeps_cause_iff (wallet : Option Wallet)
    (ordered : IsOrdered (.object fields))
    (numbered : Fields.find? "code" fields = some (.integer number))
    (texted : Fields.find? "message" fields = some (.string message))
    (carried : Fields.find? "data" fields = some (.object data))
    (wraps : Fields.find? "cause" data = some cause) (recognized : causeCode? cause = some code) :
    (ofValue (.object fields) wallet).code = code ∧
    ((decode (.object fields) wallet).code = (ofValue (.object fields) wallet).code ↔
      asSigned64? (.integer number) = none ∨ statedCode data = code) ∧
    ((asSigned64? (.integer number)).isSome → (Fields.find? "code" data).bind asString? = none →
      (decode (.object fields) wallet).code = .unknown) := by
  have classified : (ofValue (.object fields) wallet).code = code := by
    refine ofValue_code_of_cause wallet ?_ ?_ recognized
    · simp only [get?, numbered]
      rfl
    · simp only [wrappedCause?, get?, carried, Option.bind_some, wraps]
  cases fits : asSigned64? (.integer number) with
  | none =>
      have whole : decode (.object fields) wallet = ofValue (.object fields) wallet := by
        simp [decode, get?, numbered, fits]
      rw [whole]
      exact ⟨classified, iff_of_true rfl (.inl rfl), fun narrow => by cases narrow⟩
  | some signed =>
      have distinct : (data.map Prod.fst).Nodup :=
        (ordered.field (Fields.mem_of_find? carried)).distinct
      have single := Slot.read?_single ordered.distinct
      have read : RpcEnvelope.ofJson? (.object fields) =
          some ⟨signed, message, some (.object data)⟩ := by
        simp [RpcEnvelope.ofJson?, record?, Slot.required, Slot.trailing, single, numbered, texted,
          carried, present?, fits, asString?, nullable?]
      have unwrapped : (decode (.object fields) wallet).code = statedCode data := by
        simp only [decode, get?, numbered, Option.bind_some, fits, Option.isSome_some, if_true,
          read, withWallet_code, ofEnvelope_code distinct]
      refine ⟨classified, ?_, ?_⟩
      · rw [unwrapped, classified]
        simp
      · intro _ unstated
        rw [unwrapped, statedCode, unstated]
        split <;> rfl

def insistent : Fields :=
  [("code", .integer (-32603)),
    ("data", .object [("cause", .object [("statusCode", natural 0x5515)]),
      ("code", .string "AuthenticationDeviceLocked")]),
    ("message", .string "Internal JSON-RPC error.")]

theorem unwrapping_keeps_cause_insistent :
    (decode (.object insistent) (some .ledger)).code = .deviceLocked := by
  have ordered : IsOrdered (.object insistent) := by
    have cause : IsOrdered (.object [("statusCode", natural 0x5515)]) := by
      refine .object _ (by decide) ?_
      simp [natural, IsOrdered.number]
    have data : IsOrdered (.object [("cause", .object [("statusCode", natural 0x5515)]),
        ("code", .string "AuthenticationDeviceLocked")]) := by
      refine .object _ (by decide) ?_
      simp [cause, IsOrdered.string]
    refine .object _ (by decide) ?_
    simp [insistent, data, IsOrdered.string, IsOrdered.number, Json.integer]
  have held : get? (.object [("statusCode", natural 0x5515)]) "statusCode" =
      some (natural (0x5515 : UInt16).toNat) := rfl
  have recognized : causeCode? (.object [("statusCode", natural 0x5515)]) = some .deviceLocked :=
    causeCode?_of_statusWord rfl held
  obtain ⟨classified, agrees, _⟩ :=
    unwrapping_keeps_cause_iff (some .ledger) ordered rfl rfl rfl rfl recognized
  exact (agrees.mpr (.inr rfl)).trans classified

def rejected : Json :=
  .object [("code", .integer (-32603)),
    ("data", .object [("cause", .object [("statusCode", natural 27013)])]),
    ("message", .string "Internal JSON-RPC error.")]

theorem rejected_unwraps_unknown :
    (ofValue rejected none).code = .userRejected ∧ (decode rejected none).code = .unknown := by
  decide

end WalletError

end SignerLink
