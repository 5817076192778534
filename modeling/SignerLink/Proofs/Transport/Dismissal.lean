import SignerLink.Proofs.Error.Phrases
import SignerLink.Proofs.Error.Unwrapping
import SignerLink.Transport.Error
/-!
A dismissed device chooser as a failure of the wallet. One table of phrases tells that the user
dismissed the chooser, another one what a message says of the failure. A phrase about cancelling or
refusing makes the failure a rejection by the user, unless the text speaks of a denied permission
as well.
-/

namespace SignerLink

namespace Message

def permissionDenials : List String :=
  ["permission denied", "permission was denied", "access denied", "not allowed to access"]

def refusals : List String := ["denied", "rejected", "reject"]

def mentions (text : String) (phrases : List String) : Bool :=
  holdsAny phrases (lowerAscii text.toList)

theorem code_eq (text : String) :
    code text =
      if mentions text permissionDenials then .permissionDenied
      else if mentions text refusals then .userRejected
      else if mentions text ["cancel"] then .userCancelled
      else
        match (rules.drop 3).find? fun rule => rule.1.found (lowerAscii text.toList) with
        | some rule => rule.2 (lowerAscii text.toList)
        | none => .unknown := by
  have found (phrases : List String) :
      (Clue.phrases phrases).found (lowerAscii text.toList) = mentions text phrases := rfl
  have split : rules = (.phrases permissionDenials, fun _ => .permissionDenied) ::
      (.phrases refusals, fun _ => .userRejected) ::
      (.phrases ["cancel"], fun _ => .userCancelled) :: rules.drop 3 := rfl
  generalize rules.drop 3 = later at split ⊢
  rw [code, split]
  simp only [List.find?_cons, found]
  cases mentions text permissionDenials with
  | true => rfl
  | false =>
      cases mentions text refusals with
      | true => rfl
      | false => cases mentions text ["cancel"] <;> rfl

theorem later_rules_reject_nothing : ∀ rule ∈ rules.drop 3, ∀ lower,
    (rule.2 lower).isUserRejection = false := by
  intro rule later lower
  simp only [rules, List.drop_succ_cons, List.drop_zero, List.mem_cons, List.not_mem_nil,
    or_false] at later
  rcases later with rfl | rfl | rfl | rfl | rfl | rfl | rfl | rfl | rfl | rfl
  case inr.inr.inr.inl =>
    dsimp only
    split <;> rfl
  all_goals rfl

theorem code_of_permissionDenial {text : String} (denied : mentions text permissionDenials = true) :
    code text = .permissionDenied := by
  rw [code_eq, if_pos denied]

theorem isUserRejection_iff (text : String) :
    (code text).isUserRejection = true ↔
      mentions text permissionDenials = false ∧
        (mentions text refusals = true ∨ mentions text ["cancel"] = true) := by
  rw [code_eq]
  cases denied : mentions text permissionDenials with
  | true => simp [ErrorCode.isUserRejection]
  | false =>
      cases refused : mentions text refusals with
      | true => simp [ErrorCode.isUserRejection]
      | false =>
          cases cancelled : mentions text ["cancel"] with
          | true => simp [ErrorCode.isUserRejection]
          | false =>
              simp only [Bool.false_eq_true, if_false, or_self, and_false, iff_false,
                Bool.not_eq_true]
              split
              next rule found =>
                exact later_rules_reject_nothing rule (List.mem_of_find?_eq_some found) _
              next => rfl

theorem mentions_of_part {text phrase part : String} {phrases : List String}
    (listed : part ∈ phrases) (inside : holds part.toList phrase.toList = true)
    (said : holds phrase.toList (lowerAscii text.toList) = true) :
    mentions text phrases = true := by
  refine List.any_eq_true.mpr ⟨part, listed, ?_⟩
  have within := holds_iff_infix part.toList phrase.toList
  have around := holds_iff_infix phrase.toList (lowerAscii text.toList)
  have whole := holds_iff_infix part.toList (lowerAscii text.toList)
  exact whole.mpr ((within.mp inside).trans (around.mp said))

end Message

namespace TransportError

theorem dismissals_say_so : ∀ phrase ∈ dismissals, phrase ≠ "no device selected" →
    Message.holds "denied".toList phrase.toList = true ∨
      Message.holds "cancel".toList phrase.toList = true := by
  decide +kernel

theorem toWalletError_other_code (message : String) {wallet : Wallet} (other : wallet ≠ .ledger) :
    ((TransportError.other message).toWalletError wallet).code = Message.code message := by
  have silent : RawFailure.printedCode? message (some wallet) = none := by
    simp [RawFailure.printedCode?, other]
  have classified : ((TransportError.other message).toWalletError wallet).code =
      RawFailure.code { message := message } (some wallet) :=
    WalletError.classify_code { message := message } (some wallet)
  rw [classified, RawFailure.code, silent]
  rfl

/-- A text with a phrase about cancelling or refusing is recognized as a dismissal of the chooser.
The failure is then a rejection by the user exactly if the text tells of no denied permission; if
it does, that comes first. -/
theorem dismissal_is_rejection_iff (message : String) {wallet : Wallet} (other : wallet ≠ .ledger)
    {phrase : String} (listed : phrase ∈ dismissals) (spoken : phrase ≠ "no device selected")
    (said : Message.holds phrase.toList (Message.lowerAscii message.toList) = true) :
    let failure := TransportError.other message
    failure.isUserCancellation = true ∧
      ((failure.toWalletError wallet).isUserRejection = true ↔
        Message.mentions message Message.permissionDenials = false) ∧
      (Message.mentions message Message.permissionDenials = true →
        (failure.toWalletError wallet).code = .permissionDenied) := by
  intro failure
  have recognized : failure.isUserCancellation = true := List.any_eq_true.mpr ⟨phrase, listed, said⟩
  have code : (failure.toWalletError wallet).code = Message.code message :=
    toWalletError_other_code message other
  have named : Message.mentions message Message.refusals = true ∨
      Message.mentions message ["cancel"] = true :=
    (dismissals_say_so phrase listed spoken).imp
      (fun inside => Message.mentions_of_part (by decide) inside said)
      (fun inside => Message.mentions_of_part (by decide) inside said)
  refine ⟨recognized, ?_, fun denied => code.trans (Message.code_of_permissionDenial denied)⟩
  rw [WalletError.isUserRejection, code, Message.isUserRejection_iff]
  exact and_iff_left named

/-- The later rules would find an application, a lost connection and a transport here. -/
theorem dismissal_is_rejection_iff_closedApp :
    let message := "WebHID transport closed: the user cancelled the dialog, app not found"
    "the user cancelled the dialog" ∈ dismissals ∧
      Message.holds "the user cancelled the dialog".toList
        (Message.lowerAscii message.toList) = true ∧
      ((TransportError.other message).toWalletError .trezor).isUserRejection = true := by
  intro message
  have listed : "the user cancelled the dialog" ∈ dismissals := by decide
  have said : Message.holds "the user cancelled the dialog".toList
      (Message.lowerAscii message.toList) = true := by decide +kernel
  have other : Wallet.trezor ≠ .ledger := by decide
  obtain ⟨_, rejection, _⟩ := dismissal_is_rejection_iff message other listed (by decide) said
  exact ⟨listed, said, rejection.mpr (by decide +kernel)⟩

-- The one phrase left tells of no rejection, and the rules take it for a missing device.
example : (TransportError.other "No device selected").isUserCancellation = true ∧
    Message.code "No device selected" = .deviceDisconnected := by decide +kernel

theorem denied_permission_outranks_dismissal :
    ¬∀ (message : String) (wallet : Wallet), wallet ≠ .ledger →
      (TransportError.other message).isUserCancellation = true →
        ((TransportError.other message).toWalletError wallet).isUserRejection = true := by
  intro agree
  have rejected :=
    agree "Request cancelled: permission denied" .trezor (by decide) (by decide +kernel)
  rw [WalletError.isUserRejection, toWalletError_other_code _ (by decide)] at rejected
  exact absurd rejected (by decide +kernel)

end TransportError

end SignerLink
