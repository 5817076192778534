import SignerLink.Proofs.Error.Phrases
/-!
More context around a message. What stands in a text still stands there when it is wrapped, words
included as long as the context does not run into them. So a rule that applies goes on to apply, and
a wrapped message is never left to a later rule.
-/

namespace SignerLink

namespace Message

/-- Context that leads up to a message without running into its first word. -/
def IsLead (before : List Char) : Prop := ∀ last ∈ before.getLast?, last.isAlphanum = false

/-- Context that follows a message without continuing its last word. -/
def IsTrail (after : List Char) : Prop := ∀ first ∈ after.head?, first.isAlphanum = false

instance : DecidablePred IsLead := fun before =>
  decidable_of_iff (before.getLast?.all fun last => !last.isAlphanum) (by
    cases ends : before.getLast? <;> simp [IsLead, ends])

instance : DecidablePred IsTrail := fun after =>
  decidable_of_iff (after.head?.all fun first => !first.isAlphanum) (by
    cases starts : after.head? <;> simp [IsTrail, starts])

variable {before text after whole : List Char}

theorem toLower_of_not_isAlphanum {character : Char} (parts : character.isAlphanum = false) :
    character.toLower = character := by
  have small : ¬(character.val ≥ 'A'.val ∧ character.val ≤ 'Z'.val) := by
    intro upper
    have letter : character.isUpper = true := decide_eq_true upper
    have alphabetic : character.isAlpha = true := Bool.or_eq_true_iff.mpr (.inl letter)
    have part : character.isAlphanum = true := Bool.or_eq_true_iff.mpr (.inl alphabetic)
    rw [parts] at part
    cases part
  exact dif_neg small

theorem IsLead.lowerAscii (lead : IsLead before) : IsLead (lowerAscii before) := by
  intro last ends
  rw [Message.lowerAscii, List.getLast?_map] at ends
  obtain ⟨former, same, rfl⟩ := Option.map_eq_some_iff.mp ends
  rw [toLower_of_not_isAlphanum (lead former same)]
  exact lead former same

theorem IsTrail.lowerAscii (trail : IsTrail after) : IsTrail (lowerAscii after) := by
  intro first starts
  rw [Message.lowerAscii, List.head?_map] at starts
  obtain ⟨former, same, rfl⟩ := Option.map_eq_some_iff.mp starts
  rw [toLower_of_not_isAlphanum (trail former same)]
  exact trail former same

/-! What still stands in a wrapped text. -/

theorem holdsAny_of_part {phrases : List String} (inside : text <:+: whole)
    (found : holdsAny phrases text = true) : holdsAny phrases whole = true := by
  obtain ⟨phrase, listed, stands⟩ := List.any_eq_true.mp found
  refine List.any_eq_true.mpr ⟨phrase, listed, ?_⟩
  have shorter := holds_iff_infix phrase.toList text
  have longer := holds_iff_infix phrase.toList whole
  exact longer.mpr ((shorter.mp stands).trans inside)

theorem wordsFrom_lead (lead : IsLead before) (text : List Char) :
    ∃ words, wordsFrom [] (before ++ text) = words ++ wordsFrom [] text := by
  rcases List.eq_nil_or_concat before with rfl | ⟨start, separator, rfl⟩
  · exact ⟨[], rfl⟩
  · refine ⟨wordsFrom [] start, ?_⟩
    rw [List.concat_eq_append, List.append_assoc, List.singleton_append]
    exact wordsFrom_append (lead separator (by simp)) [] start text

theorem wordsFrom_trail (trail : IsTrail after) (text : List Char) :
    ∃ words, wordsFrom [] (text ++ after) = wordsFrom [] text ++ words := by
  cases after with
  | nil => exact ⟨[], by simp⟩
  | cons separator rest =>
      exact ⟨wordsFrom [] rest, wordsFrom_append (trail separator rfl) [] text rest⟩

theorem mentionsApp_wrapped (lead : IsLead before) (trail : IsTrail after)
    (mentioned : mentionsApp text = true) : mentionsApp (before ++ text ++ after) = true := by
  obtain ⟨earlier, led⟩ := wordsFrom_lead lead (text ++ after)
  obtain ⟨later, trailed⟩ := wordsFrom_trail trail text
  rw [mentionsApp] at mentioned ⊢
  rw [List.append_assoc, led, trailed, List.any_append, List.any_append, mentioned]
  simp

theorem found_wrapped {clue : Clue} (lead : IsLead before) (trail : IsTrail after)
    (found : clue.found text = true) : clue.found (before ++ text ++ after) = true := by
  have inside : text <:+: before ++ text ++ after := List.infix_append before text after
  cases clue with
  | phrases any => exact holdsAny_of_part inside found
  | bothPhrases any other =>
      obtain ⟨first, second⟩ := Bool.and_eq_true_iff.mp found
      exact Bool.and_eq_true_iff.mpr
        ⟨holdsAny_of_part inside first, holdsAny_of_part inside second⟩
  | app => exact mentionsApp_wrapped lead trail found

/-- What a rule says of a text it goes on to say of a longer one, except that an application that
is closed may turn out to be the wrong one. -/
theorem verdict_of_part (inside : text <:+: whole) :
    ∀ rule ∈ rules, rule.2 whole = rule.2 text ∨
      rule.2 text = .appClosed ∧ rule.2 whole = .wrongApp := by
  have wrong : holdsAny ["wrong", "another app", "different app"] text = true →
      holdsAny ["wrong", "another app", "different app"] whole = true :=
    holdsAny_of_part inside
  by_cases said : holdsAny ["wrong", "another app", "different app"] text = true
  · simp [rules, said, wrong said]
  · cases told : holdsAny ["wrong", "another app", "different app"] whole <;>
      simp [rules, said, told]

/-! The rule that decides. -/

theorem code_eq_verdict (text : String) :
    code text =
      ((rules[rank text]?).map fun rule => rule.2 (lowerAscii text.toList)).getD .unknown := by
  simp only [code, rank, ← List.find?_eq_getElem?_findIdx]
  cases rules.find? fun rule => rule.1.found (lowerAscii text.toList) <;> rfl

/-- A message in more context is never left to a later rule. Where the same rule decides, it says
the same, unless the context tells that the application is the wrong one. -/
theorem wrapping_keeps_rank {before text after : String} (lead : IsLead before.toList)
    (trail : IsTrail after.toList) :
    rank (before ++ text ++ after) ≤ rank text ∧
      (rank (before ++ text ++ after) = rank text →
        code (before ++ text ++ after) = code text ∨
          code text = .appClosed ∧ code (before ++ text ++ after) = .wrongApp) := by
  have lower : lowerAscii (before ++ text ++ after).toList =
      lowerAscii before.toList ++ lowerAscii text.toList ++ lowerAscii after.toList := by
    simp [lowerAscii]
  constructor
  · refine List.findIdx_le_findIdx fun rule _ found => ?_
    rw [lower]
    exact found_wrapped lead.lowerAscii trail.lowerAscii found
  · intro same
    rw [code_eq_verdict (before ++ text ++ after), code_eq_verdict text, same, lower]
    cases decides : rules[rank text]? with
    | none => exact .inl rfl
    | some rule =>
        exact verdict_of_part (List.infix_append _ _ _) rule (List.mem_of_getElem? decides)

theorem wrapping_keeps_rank_wrongState :
    rank "No app open" = 6 ∧ code "No app open" = .appClosed ∧
      rank ("Wrong state: " ++ "No app open" ++ " (0x6d00)") ≤ 6 ∧
      code ("Wrong state: " ++ "No app open" ++ " (0x6d00)") = .wrongApp := by
  have lead : IsLead "Wrong state: ".toList := by decide
  have trail : IsTrail " (0x6d00)".toList := by decide
  have app : rank "No app open" = 6 := by decide
  obtain ⟨kept, verdict⟩ : rank ("Wrong state: " ++ "No app open" ++ " (0x6d00)") ≤
      rank "No app open" ∧ _ := wrapping_keeps_rank lead trail
  rw [app] at kept verdict
  refine ⟨app, by decide, kept, ?_⟩
  rcases verdict (by decide) with same | ⟨_, wrong⟩
  · exact absurd same (by decide)
  · exact wrong

-- A word that runs into the context is another word.
example : rank "open app" < rank ("open app" ++ "roval") := by decide

end Message

end SignerLink
