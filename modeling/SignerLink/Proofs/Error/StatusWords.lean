import SignerLink.Adapter.Error
import SignerLink.Proofs.Error.Phrases
import SignerLink.Proofs.Error.Unwrapping
/-!
Status words in messages of a Ledger. A word that is printed behind a message is read back and
decides as it did on its own. Longer runs of hexadecimal digits are read by their first four, so
that an address or a hash may be taken for a status word.
-/

namespace SignerLink

namespace StatusWord

variable {left right run : List Char} {separator : Char} {word : UInt16}

def isDigit (character : Char) : Bool := (digit? character).isSome

theorem digit?_digit : ∀ value < 16, digit? (digit value) = some value := by decide

theorem digit_mem : ∀ value < 16, digit value ∈ "0123456789abcdef".toList := by decide

theorem read?_cons {first second third fourth : Char} {a b c d : Nat} (rest : List Char)
    (one : digit? first = some a) (two : digit? second = some b) (three : digit? third = some c)
    (four : digit? fourth = some d) :
    read? (first :: second :: third :: fourth :: rest) =
      some (((a * 16 + b) * 16 + c) * 16 + d).toUInt16 := by
  simp [read?, one, two, three, four]

theorem read?_text (word : UInt16) (rest : List Char) : read? (text word ++ rest) = some word := by
  have bound : word.toNat < 65536 := word.toNat_lt
  have read := digit?_digit
  have whole : ((word.toNat / 4096 * 16 + word.toNat / 256 % 16) * 16 + word.toNat / 16 % 16) * 16 +
      word.toNat % 16 = word.toNat := by omega
  rw [text]
  refine (read?_cons _ (read _ ?_) (read _ ?_) (read _ ?_) (read _ ?_)).trans ?_
  · omega
  · omega
  · omega
  · omega
  · rw [whole]
    simp

theorem text_subset (word : UInt16) : text word ⊆ "0123456789abcdef".toList := by
  have bound : word.toNat < 65536 := word.toNat_lt
  have written := digit_mem
  intro character member
  simp only [text, List.mem_cons, List.not_mem_nil, or_false] at member
  rcases member with rfl | rfl | rfl | rfl <;> exact written _ (by omega)

theorem read?_eq_none_of_short (short : run.length < 4) : read? run = none := by
  match run, short with
  | [], _ | [_], _ | [_, _], _ | [_, _, _], _ => rfl

theorem read?_append (stop : isDigit separator = false) (left right : List Char) :
    read? (left ++ separator :: right) = read? left := by
  have unread : digit? separator = none := by simpa [isDigit] using stop
  match left with
  | [] | [_] | [_, _] =>
      simp only [read?, List.cons_append, List.nil_append]
      split <;> simp_all
  | [_, _, _] => simp [read?, unread]
  | _ :: _ :: _ :: _ :: _ => rfl

theorem read?_takeWhile (text : List Char) : read? (text.takeWhile isDigit) = read? text := by
  have parts : text.takeWhile isDigit ++ text.dropWhile isDigit = text :=
    List.takeWhile_append_dropWhile
  cases rest : text.dropWhile isDigit with
  | nil =>
      rw [rest, List.append_nil] at parts
      rw [parts]
  | cons separator right =>
      have stop : isDigit separator = false := by
        have := List.head?_dropWhile_not isDigit text
        simpa [rest] using this
      rw [rest] at parts
      rw [← read?_append stop _ right, parts]

/-- The maximal runs of hexadecimal digits behind each marker. -/
def runs : List Char → List (List Char)
  | '0' :: 'x' :: rest => rest.takeWhile isDigit :: runs rest
  | _ :: rest => runs rest
  | [] => []

theorem allIn_eq_runs (text : List Char) : allIn text = (runs text).filterMap read? := by
  fun_induction runs text with
  | case1 rest ih =>
      rw [allIn, List.filterMap_cons, read?_takeWhile, ih]
      split <;> simp_all
  | case2 first rest unmarked ih => rw [allIn, ih]; exact unmarked
  | case3 => rfl

theorem runs_cons_append {first : Char}
    (unmarked : ∀ tail, first = '0' → left = 'x' :: tail → False) (other : separator ≠ 'x') :
    runs (first :: (left ++ separator :: right)) = runs (left ++ separator :: right) := by
  rw [runs]
  intro tail zero starts
  cases left with
  | nil => exact other (List.cons.inj starts).1
  | cons second rest =>
      refine unmarked rest zero ?_
      rw [(List.cons.inj starts).1]

theorem runs_append (stop : isDigit separator = false) (other : separator ≠ 'x')
    (left right : List Char) :
    runs (left ++ separator :: right) = runs left ++ runs (separator :: right) := by
  fun_induction runs left with
  | case1 rest ih =>
      have kept : (rest ++ separator :: right).takeWhile isDigit = rest.takeWhile isDigit := by
        rw [List.takeWhile_append, List.takeWhile_cons, stop]
        split
        next whole => simpa using ((List.takeWhile_prefix isDigit).eq_of_length whole).symm
        next => rfl
      simp only [List.cons_append, runs, kept, ih]
  | case2 first rest unmarked ih =>
      rw [List.cons_append, runs_cons_append unmarked other, ih]
  | case3 => rfl

theorem runs_eq_nil {text : List Char} (unmarked : 'x' ∉ text) : runs text = [] := by
  fun_induction runs text with
  | case1 rest => simp at unmarked
  | case2 first rest _ ih => exact ih fun member => unmarked (List.mem_cons_of_mem first member)
  | case3 => rfl

theorem mem_runs_iff (text run : List Char) :
    run ∈ runs text ↔ ∃ before after,
      text = before ++ '0' :: 'x' :: after ∧ run = after.takeWhile isDigit := by
  constructor
  · intro member
    fun_induction runs text with
    | case1 rest ih =>
        rcases List.mem_cons.mp member with rfl | later
        · exact ⟨[], rest, rfl, rfl⟩
        · obtain ⟨before, after, rfl, same⟩ := ih later
          exact ⟨'0' :: 'x' :: before, after, rfl, same⟩
    | case2 first rest unmarked ih =>
        obtain ⟨before, after, rfl, same⟩ := ih member
        exact ⟨first :: before, after, rfl, same⟩
    | case3 => cases member
  · rintro ⟨before, after, rfl, rfl⟩
    fun_induction runs before with
    | case1 rest ih => exact List.mem_cons_of_mem _ ih
    | case2 first rest unmarked ih =>
        rw [List.cons_append, runs_cons_append unmarked (by decide)]
        exact ih
    | case3 => exact List.mem_cons_self

theorem mem_allIn_iff (text : List Char) (word : UInt16) :
    word ∈ allIn text ↔ ∃ before after,
      text = before ++ '0' :: 'x' :: after ∧ read? after = some word := by
  rw [allIn_eq_runs, List.mem_filterMap]
  constructor
  · rintro ⟨run, member, read⟩
    obtain ⟨before, after, same, rfl⟩ := (mem_runs_iff text run).mp member
    exact ⟨before, after, same, read?_takeWhile after ▸ read⟩
  · rintro ⟨before, after, same, read⟩
    exact ⟨_, (mem_runs_iff text _).mpr ⟨before, after, same, rfl⟩,
      (read?_takeWhile after).trans read⟩

def HoldsKnown (text : List Char) : Prop :=
  ∃ before after word, text = before ++ '0' :: 'x' :: after ∧ read? after = some word ∧
    (ErrorCode.ofStatusWord? word).isSome

theorem holdsKnown_iff (text : List Char) :
    HoldsKnown text ↔ ∃ word ∈ allIn text, (ErrorCode.ofStatusWord? word).isSome := by
  constructor
  · rintro ⟨before, after, word, same, read, known⟩
    exact ⟨word, (mem_allIn_iff text word).mpr ⟨before, after, same, read⟩, known⟩
  · rintro ⟨word, member, known⟩
    obtain ⟨before, after, same, read⟩ := (mem_allIn_iff text word).mp member
    exact ⟨before, after, word, same, read, known⟩

instance : DecidablePred HoldsKnown := fun text => decidable_of_iff _ (holdsKnown_iff text).symm

theorem findSome?_of_not_holdsKnown {text : List Char} (unknown : ¬HoldsKnown text) :
    (allIn text).findSome? ErrorCode.ofStatusWord? = none := by
  refine List.findSome?_eq_none_iff.mpr fun word member => ?_
  rw [← Option.not_isSome_iff_eq_none]
  exact fun known => unknown ((holdsKnown_iff text).mpr ⟨word, member, known⟩)

/-! A word that is printed behind a text. -/

def remark (word : UInt16) : List Char := '0' :: 'x' :: (text word ++ [')'])

theorem remark_subset (word : UInt16) : remark word ⊆ Message.remarkable := by
  have digits : "0123456789abcdef".toList ⊆ Message.remarkable := by decide
  refine List.cons_subset.mpr ⟨by decide, List.cons_subset.mpr ⟨by decide, ?_⟩⟩
  exact List.append_subset.mpr ⟨List.Subset.trans (text_subset word) digits, by decide⟩

theorem allIn_remark (text : List Char) (word : UInt16) :
    allIn (text ++ ' ' :: '(' :: remark word) = allIn text ++ [word] := by
  have unmarked : 'x' ∉ StatusWord.text word ++ [')'] := by
    intro member
    rcases List.mem_append.mp member with digit | bracket
    · exact absurd (text_subset word digit) (by decide)
    · exact absurd bracket (by decide)
  have printed : runs (' ' :: '(' :: remark word) =
      [(StatusWord.text word ++ [')']).takeWhile isDigit] := by
    rw [runs, runs, remark, runs, runs_eq_nil unmarked] <;> simp
  rw [allIn_eq_runs, runs_append (by decide) (by decide), List.filterMap_append, ← allIn_eq_runs,
    printed, List.filterMap_cons, read?_takeWhile, read?_text]
  rfl

/-! Longer runs. -/

def HoldsFourDigits (text : List Char) : Prop :=
  ∃ before after, text = before ++ '0' :: 'x' :: after ∧ (after.takeWhile isDigit).length = 4

theorem holdsFourDigits_iff (text : List Char) :
    HoldsFourDigits text ↔ ∃ run ∈ runs text, run.length = 4 := by
  constructor
  · rintro ⟨before, after, same, four⟩
    exact ⟨_, (mem_runs_iff text _).mpr ⟨before, after, same, rfl⟩, four⟩
  · rintro ⟨run, member, four⟩
    obtain ⟨before, after, same, rfl⟩ := (mem_runs_iff text run).mp member
    exact ⟨before, after, same, four⟩

instance : DecidablePred HoldsFourDigits := fun text =>
  decidable_of_iff _ (holdsFourDigits_iff text).symm

/-- The code of the first known word that longer runs of digits begin with. -/
def misread? (text : List Char) : Option ErrorCode :=
  ((runs text).filter fun run => 4 < run.length).findSome? fun run =>
    (read? run).bind ErrorCode.ofStatusWord?

theorem findSome?_of_not_holdsFourDigits {text : List Char}
    (unmarked : ¬HoldsFourDigits text) :
    (allIn text).findSome? ErrorCode.ofStatusWord? = misread? text := by
  have differ : ∀ run ∈ runs text, run.length ≠ 4 := fun run member four =>
    unmarked ((holdsFourDigits_iff text).mpr ⟨run, member, four⟩)
  rw [allIn_eq_runs, misread?]
  -- Shorter runs are no words, so that of those that are read none is as short as four.
  generalize runs text = all at differ
  induction all with
  | nil => rfl
  | cons run rest ih =>
      obtain ⟨first, others⟩ := List.forall_mem_cons.mp differ
      rcases Nat.lt_or_gt_of_ne first with short | long
      · simp [read?_eq_none_of_short short, Nat.not_lt.mpr (Nat.le_of_lt short), ih others]
      · cases read : read? run with
        | none => simp [read, long, ih others]
        | some word => simp [read, long, List.findSome?_cons, ih others]

end StatusWord

namespace RawFailure

/-- A failure without a name is judged by its status word, then by those in its message, then by
the message. -/
theorem code_of_unnamed (message : String) (status : Option UInt16) (wallet : Option Wallet) :
    code { message := message, status := status } wallet =
      ((status.bind ErrorCode.ofStatusWord?).or (printedCode? message wallet)).getD
        (Message.code message) := by
  simp only [code, Option.bind_none, Option.or_none]

theorem printedCode?_ledger (message : String) :
    printedCode? message (some .ledger) =
      (StatusWord.allIn message.toList).findSome? ErrorCode.ofStatusWord? := if_pos rfl

theorem printedCode?_none (message : String) : printedCode? message none = none := rfl

end RawFailure

namespace AdapterError

open StatusWord

theorem text_status (word : UInt16) (message : String) :
    (status word message).text.toList = message.toList ++ ' ' :: '(' :: remark word := by
  simp [text, remark]

/-- A status word that is printed behind a message decides as it does on its own, known or not,
unless a known one stands in the message before it. -/
theorem printed_status_keeps_code {message : String} (word : UInt16)
    (unknown : ¬HoldsKnown message.toList) :
    ((status word message).classify (some .ledger)).code =
        (ErrorCode.ofStatusWord? word).getD (Message.code message) ∧
      ((other (status word message).text).classify (some .ledger)).code =
        ((status word message).classify (some .ledger)).code := by
  have silent := findSome?_of_not_holdsKnown unknown
  have numbered : ((status word message).classify (some .ledger)).code =
      (ErrorCode.ofStatusWord? word).getD (Message.code message) := by
    simp only [classify, WalletError.classify_code, RawFailure.code_of_unnamed,
      RawFailure.printedCode?_ledger, silent, Option.bind_some, Option.or_none]
  have printed : ((other (status word message).text).classify (some .ledger)).code =
      (ErrorCode.ofStatusWord? word).getD (Message.code (status word message).text) := by
    simp only [classify, WalletError.classify_code, RawFailure.code_of_unnamed,
      RawFailure.printedCode?_ledger, text_status, allIn_remark, List.findSome?_append, silent,
      List.findSome?_singleton, Option.bind_none, Option.none_or]
  refine ⟨numbered, ?_⟩
  rw [printed, numbered, Message.code_remark (remark_subset word) (text_status word message)]

def wrongAppText : String := "Wrong app at 0x69, status 0x6F00"

theorem printed_status_keeps_code_wrongAppText :
    ((other (status 0x9000 wrongAppText).text).classify (some .ledger)).code = .wrongApp ∧
    ((other (status 0x5515 wrongAppText).text).classify (some .ledger)).code = .deviceLocked := by
  have unknown : ¬HoldsKnown wrongAppText.toList := by decide
  obtain ⟨unlisted, saysSo⟩ := printed_status_keeps_code 0x9000 unknown
  obtain ⟨listed, saysLocked⟩ := printed_status_keeps_code 0x5515 unknown
  refine ⟨saysSo.trans (unlisted.trans ?_), saysLocked.trans (listed.trans rfl)⟩
  decide

end AdapterError

namespace WalletError

open StatusWord

/-- Where no marker begins a run of exactly four digits, a message says the same for a Ledger as
without a wallet exactly when the first known status word that begins a longer run, if there is
one, has the code that the message itself has. -/
theorem longer_runs_are_read_iff {message : String}
    (unmarked : ¬HoldsFourDigits message.toList) :
    (ofMessage message (some .ledger)).code =
        (misread? message.toList).getD (ofMessage message none).code ∧
      ((ofMessage message (some .ledger)).code = (ofMessage message none).code ↔
        ∀ code, misread? message.toList = some code →
          code = (ofMessage message none).code) := by
  have read := findSome?_of_not_holdsFourDigits unmarked
  have ledger : (ofMessage message (some .ledger)).code =
      (misread? message.toList).getD (ofMessage message none).code := by
    simp only [ofMessage, classify_code, RawFailure.code_of_unnamed,
      RawFailure.printedCode?_ledger, RawFailure.printedCode?_none, read, Option.bind_none,
      Option.none_or, Option.getD_none]
  refine ⟨ledger, ?_⟩
  rw [ledger]
  cases misread? message.toList <;> simp

def rejectedTransfer : String := "User rejected 0x6985d1a0 from 0x5aeda56215b1"

theorem longer_runs_are_read_iff_rejectedTransfer :
    misread? rejectedTransfer.toList = some .userRejected ∧
    (ofMessage rejectedTransfer (some .ledger)).code = (ofMessage rejectedTransfer none).code := by
  have unmarked : ¬HoldsFourDigits rejectedTransfer.toList := by decide
  have misread : misread? rejectedTransfer.toList = some .userRejected := by decide
  refine ⟨misread, (longer_runs_are_read_iff unmarked).2.mpr fun code read => ?_⟩
  rw [misread] at read
  cases read
  decide +kernel

/-- The address of an account begins like the status word of a rejection. -/
def lowNonce : String := "Nonce too low for 0x6985da56215b167893e80b4fe645ba6d5bab767d"

theorem address_is_read_as_rejection :
    ¬HoldsFourDigits lowNonce.toList ∧
    (ofMessage lowNonce none).code = .unknown ∧
    (ofMessage lowNonce (some .ledger)).code = .userRejected := by
  decide +kernel

end WalletError

end SignerLink
