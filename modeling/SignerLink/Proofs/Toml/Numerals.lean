import SignerLink.Toml.Scalar
/-!
Numbers in decimal digits read back from a line of their own, as far as numbers have 64 bits with a
sign. Digits alone are neither a date nor a time.
-/

namespace SignerLink

namespace Toml

def AreDigits (digits : List Char) : Prop := ∀ character ∈ digits, character.isDigit = true

variable {character : Char} {digits rest : List Char}

theorem AreDigits.cons (numeral : AreDigits (character :: digits)) :
    character.isDigit = true ∧ AreDigits digits :=
  List.forall_mem_cons.mp numeral

theorem digitValue?_of_isDigit (digit : character.isDigit = true) :
    Json.digitValue? character = some (character.toNat - 48) := by
  rw [Json.digitValue?, if_pos]
  simpa [Char.isDigit, Char.le_def] using digit

theorem ne_of_isDigit (digit : character.isDigit = true) {other : Char}
    (apart : other.isDigit = false) : character ≠ other := by
  rintro rfl
  rw [digit] at apart
  cases apart

/-! Neither dates nor times. -/

theorem digitValue?_line : Json.digitValue? '\n' = none := by decide

theorem twoDigits?_digits (numeral : AreDigits digits) {low high value : Nat} {left : List Char}
    (read : twoDigits? low high (digits ++ '\n' :: rest) = some (value, left)) :
    ∃ fewer, AreDigits fewer ∧ left = fewer ++ '\n' :: rest := by
  rcases digits with _ | ⟨tens, _ | ⟨units, fewer⟩⟩
  · rcases rest with _ | ⟨next, rest⟩
    · cases read
    · simp [twoDigits?, digitValue?_line] at read
  · simp [twoDigits?, digitValue?_line] at read
  · obtain ⟨first, later⟩ := numeral.cons
    obtain ⟨second, still⟩ := later.cons
    simp only [List.cons_append, twoDigits?, digitValue?_of_isDigit first,
      digitValue?_of_isDigit second, Option.bind_eq_bind, Option.bind_some] at read
    obtain ⟨_, same⟩ := Option.ite_none_right_eq_some.mp read
    cases same
    exact ⟨fewer, still, rfl⟩

theorem digits_ne (numeral : AreDigits digits) {other : Char} (apart : other.isDigit = false)
    (inside : other ≠ '\n') (more : List Char) : digits ++ '\n' :: rest ≠ other :: more := by
  intro same
  rcases digits with _ | ⟨first, digits⟩
  · exact inside (List.cons.inj same).1.symm
  · exact ne_of_isDigit numeral.cons.1 apart (List.cons.inj same).1

theorem past?_digits (numeral : AreDigits digits) {mark : Char} (apart : mark.isDigit = false)
    (inside : mark ≠ '\n') : past? mark (digits ++ '\n' :: rest) = none := by
  cases text : digits ++ '\n' :: rest with
  | nil => rfl
  | cons character more =>
      refine if_neg ?_
      rintro rfl
      exact digits_ne numeral apart inside more text

theorem pastDate?_digits (numeral : AreDigits digits) :
    pastDate? (digits ++ '\n' :: rest) = none := by
  simp only [pastDate?, Option.bind_eq_bind, Option.pure_def, Option.bind_eq_none_iff]
  rintro ⟨century, left⟩ first
  obtain ⟨fewer, still, rfl⟩ := twoDigits?_digits numeral first
  rintro ⟨year, left⟩ second
  obtain ⟨fewer, still, rfl⟩ := twoDigits?_digits still second
  intro after dash
  rw [past?_digits still (by decide) (by decide)] at dash
  cases dash

theorem pastTime?_digits (numeral : AreDigits digits) :
    pastTime? (digits ++ '\n' :: rest) = none := by
  simp only [pastTime?, Option.bind_eq_bind, Option.pure_def, Option.bind_eq_none_iff]
  rintro ⟨hour, left⟩ first
  obtain ⟨fewer, still, rfl⟩ := twoDigits?_digits numeral first
  intro after colon
  rw [past?_digits still (by decide) (by decide)] at colon
  cases colon

theorem moment?_digits (numeral : AreDigits digits) :
    moment? (digits ++ '\n' :: rest) = none := by
  simp [moment?, pastMoment?, pastDate?_digits numeral, pastTime?_digits numeral]

/-! Numbers. -/

theorem moreDigits?_digits (numeral : AreDigits digits) :
    moreDigits? Json.digitValue? (digits ++ '\n' :: rest) =
      some (digits.map fun digit => digit.toNat - 48, '\n' :: rest) := by
  induction digits with
  | nil => simp [moreDigits?, digitValue?_line]
  | cons character digits ih =>
      obtain ⟨digit, later⟩ := numeral.cons
      have underscore : character ≠ '_' := ne_of_isDigit digit (by decide)
      simp [moreDigits?, underscore, digitValue?_of_isDigit digit, ih later]

theorem ofDigits_ofDigitChars (digits : List Char) :
    ofDigits 10 (digits.map fun digit => digit.toNat - 48) = Nat.ofDigitChars 10 digits 0 := by
  simp [ofDigits, Nat.ofDigitChars, List.foldl_map]

theorem eq_zero_of_toDigits {value : Nat} {more : List Char}
    (written : Nat.toDigits 10 value = '0' :: more) : value = 0 := by
  induction value using Nat.strongRecOn generalizing more with
  | ind value ih =>
      rw [Nat.toDigits_eq_if (by decide)] at written
      split at written
      next small =>
        have zero : ∀ value < 10, value.digitChar = '0' → value = 0 := by decide
        exact zero value small (List.cons.inj written).1
      next large =>
        rcases front : Nat.toDigits 10 (value / 10) with _ | ⟨first, middle⟩
        · exact absurd front Nat.toDigits_ne_nil
        rw [front, List.cons_append] at written
        obtain ⟨rfl, _⟩ := List.cons.inj written
        have below := ih (value / 10) (by omega) front
        omega

theorem toDigits_areDigits (value : Nat) : AreDigits (Nat.toDigits 10 value) :=
  fun _ member => Nat.isDigit_of_mem_toDigits (by decide) (by decide) member

theorem wholeDigits?_toDigits (value : Nat) (rest : List Char) :
    wholeDigits? (Nat.toDigits 10 value ++ '\n' :: rest) =
      some ((Nat.toDigits 10 value).map fun digit => digit.toNat - 48, '\n' :: rest) := by
  have numeral := toDigits_areDigits value
  rcases written : Nat.toDigits 10 value with _ | ⟨first, digits⟩
  · exact absurd written Nat.toDigits_ne_nil
  rw [written] at numeral
  obtain ⟨digit, later⟩ := numeral.cons
  by_cases zero : first = '0'
  · subst zero
    obtain rfl := eq_zero_of_toDigits written
    have same : ['0'] = '0' :: digits := written
    obtain rfl := (List.cons.inj same).2
    simp [wholeDigits?]
  · simp [wholeDigits?, digits?, zero, digitValue?_of_isDigit digit, moreDigits?_digits later]

theorem number?_digits (digit : character.isDigit = true) (numeral : AreDigits digits) :
    number? (character :: (digits ++ '\n' :: rest)) =
      unsigned? false (character :: (digits ++ '\n' :: rest)) := by
  rw [number?.eq_def]
  split
  next same => exact absurd (List.cons.inj same).2 (digits_ne numeral (by decide) (by decide) _)
  next same => exact absurd (List.cons.inj same).2 (digits_ne numeral (by decide) (by decide) _)
  next same => exact absurd (List.cons.inj same).2 (digits_ne numeral (by decide) (by decide) _)
  next =>
    have plus : character ≠ '+' := ne_of_isDigit digit (by decide)
    have minus : character ≠ '-' := ne_of_isDigit digit (by decide)
    simp [signed?, plus, minus]

theorem integer?_natural {value : Nat} (fits : (value : Int) ≤ greatestInteger) :
    integer? value = some (Json.natural value) := by
  have least : -greatestInteger - 1 ≤ (value : Int) := by
    simp only [greatestInteger]
    omega
  rw [integer?, if_pos]
  · rfl
  · exact Bool.and_eq_true_iff.mpr ⟨decide_eq_true least, decide_eq_true fits⟩

theorem unsigned?_digits (digit : character.isDigit = true) {more : List Char}
    {digits : List Nat} (whole : wholeDigits? (character :: more) = some (digits, '\n' :: rest))
    (fits : (ofDigits 10 digits : Int) ≤ greatestInteger) :
    unsigned? false (character :: more) =
      some (Json.natural (ofDigits 10 digits), '\n' :: rest) := by
  have infinite : character ≠ 'i' := ne_of_isDigit digit (by decide)
  have unnumbered : character ≠ 'n' := ne_of_isDigit digit (by decide)
  rw [unsigned?.eq_def]
  split
  next same => exact absurd (List.cons.inj same).1 infinite
  next same => exact absurd (List.cons.inj same).1 unnumbered
  next =>
    simp [whole, integer?_natural fits]

theorem scalar?_toDigits {value : Nat} (fits : (value : Int) ≤ greatestInteger) (rest : List Char) :
    scalar? (Nat.toDigits 10 value ++ '\n' :: rest) =
      some (Json.natural value, '\n' :: rest) := by
  have numeral := toDigits_areDigits value
  have moment : moment? (Nat.toDigits 10 value ++ '\n' :: rest) = none := moment?_digits numeral
  have whole := wholeDigits?_toDigits value rest
  have same : ofDigits 10 ((Nat.toDigits 10 value).map fun digit => digit.toNat - 48) = value := by
    rw [ofDigits_ofDigitChars, Nat.ofDigitChars_ten_toDigits]
  rcases written : Nat.toDigits 10 value with _ | ⟨first, digits⟩
  · exact absurd written Nat.toDigits_ne_nil
  rw [written] at numeral moment whole same
  obtain ⟨digit, later⟩ := numeral.cons
  rw [List.cons_append] at moment whole ⊢
  have number := (number?_digits digit later).trans
    (unsigned?_digits digit whole (same.symm ▸ fits))
  rw [same] at number
  rw [scalar?.eq_def]
  split
  next other => exact absurd (List.cons.inj other).1 (ne_of_isDigit digit (by decide))
  next other => exact absurd (List.cons.inj other).1 (ne_of_isDigit digit (by decide))
  next other => exact absurd (List.cons.inj other).1 (ne_of_isDigit digit (by decide))
  next other => exact absurd (List.cons.inj other).1 (ne_of_isDigit digit (by decide))
  next => simp [moment, number]

end Toml

end SignerLink
