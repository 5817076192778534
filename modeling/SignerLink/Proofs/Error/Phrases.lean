import Mathlib.Data.List.Find
import SignerLink.Error.Message
/-!
Searching a message. A phrase is found wherever it stands in the text, a word only as a whole; so
that a remark in brackets after the text, made up of hexadecimal digits, is nothing that the rules
look for and hides nothing of what they found before it.
-/

namespace SignerLink

namespace Message

variable {phrase left right : List Char} {separator : Char}

theorem holds_iff_infix (phrase text : List Char) :
    holds phrase text = true ↔ phrase <:+: text := by
  induction text with
  | nil => simp [holds]
  | cons character rest ih =>
      rw [holds, Bool.or_eq_true, List.isPrefixOf_iff_prefix, ih, List.infix_cons_iff]

theorem infix_append_cons_iff (absent : separator ∉ phrase) :
    phrase <:+: left ++ separator :: right ↔ phrase <:+: left ∨ phrase <:+: right := by
  have unstarted {part : List Char} (within : separator ∉ part)
      (starts : part <+: separator :: right) : part = [] := by
    cases part with
    | nil => rfl
    | cons first rest =>
        obtain ⟨same, _⟩ := List.cons_prefix_cons.mp starts
        exact absurd (same ▸ List.mem_cons_self) within
  constructor
  · intro found
    rcases List.infix_append_iff.mp found with before | after | ⟨first, second, rfl, ends, starts⟩
    · exact .inl before
    · rcases List.infix_cons_iff.mp after with starts | inside
      · rw [unstarted absent starts]
        exact .inl List.nil_infix
      · exact .inr inside
    · rw [unstarted (fun member => absent (List.mem_append_right first member)) starts,
        List.append_nil]
      exact .inl ends.isInfix
  · rintro (before | after)
    · exact before.trans (List.prefix_append left _).isInfix
    · exact after.trans ⟨left ++ [separator], [], by simp⟩

theorem infix_concat_iff (other : phrase.getLast? ≠ some separator) :
    phrase <:+: left ++ [separator] ↔ phrase <:+: left := by
  constructor
  · intro found
    rcases List.infix_concat_iff.mp found with ends | inside
    · rcases List.suffix_concat_iff.mp ends with rfl | ⟨start, rfl, _⟩
      · exact List.nil_infix
      · exact absurd List.getLast?_concat other
    · exact inside
  · intro found
    exact found.trans (List.prefix_append left _).isInfix

/-! Words. -/

theorem wordsFrom_append (parts : separator.isAlphanum = false) (current left right : List Char) :
    wordsFrom current (left ++ separator :: right) =
      wordsFrom current left ++ wordsFrom [] right := by
  induction left generalizing current with
  | nil => simp [wordsFrom, parts]
  | cons character rest ih =>
      simp only [List.cons_append, wordsFrom, ih]
      split
      · rfl
      · rfl

theorem mem_of_wordsFrom {current text word : List Char} (found : word ∈ wordsFrom current text) :
    ∀ character ∈ word, character ∈ current ∨ character ∈ text := by
  induction text generalizing current with
  | nil => simp_all [wordsFrom]
  | cons first rest ih =>
      rw [wordsFrom] at found
      split at found
      next =>
        intro character member
        rcases ih found character member with here | later
        · rcases List.mem_cons.mp here with rfl | before
          · exact .inr List.mem_cons_self
          · exact .inl before
        · exact .inr (List.mem_cons_of_mem first later)
      next =>
        rcases List.mem_cons.mp found with rfl | later
        · exact fun character member => .inl (List.mem_reverse.mp member)
        · intro character member
          rcases ih later character member with none | within
          · cases none
          · exact .inr (List.mem_cons_of_mem first within)

/-! Remarks in brackets. -/

def remarkable : List Char := "0123456789abcdefx)".toList

/-- No part of the phrase can stand in such a remark, nor reach into it. -/
def IsApart (phrase : List Char) : Prop :=
  '(' ∉ phrase ∧ phrase.getLast? ≠ some ' ' ∧ ¬phrase ⊆ remarkable

instance : DecidablePred IsApart := fun _ => inferInstanceAs (Decidable (_ ∧ _ ∧ _))

theorem holds_remark (apart : IsApart phrase) (remark : right ⊆ remarkable) :
    holds phrase (left ++ ' ' :: '(' :: right) = holds phrase left := by
  obtain ⟨unbracketed, unspaced, foreign⟩ := apart
  have outside : ¬phrase <:+: right := fun within =>
    foreign (List.Subset.trans within.subset remark)
  have split : left ++ ' ' :: '(' :: right = (left ++ [' ']) ++ '(' :: right := by simp
  rw [Bool.eq_iff_iff, holds_iff_infix, holds_iff_infix, split, infix_append_cons_iff unbracketed,
    infix_concat_iff unspaced]
  exact or_iff_left outside

theorem holdsAny_remark {phrases : List String} (apart : ∀ phrase ∈ phrases, IsApart phrase.toList)
    (remark : right ⊆ remarkable) :
    holdsAny phrases (left ++ ' ' :: '(' :: right) = holdsAny phrases left := by
  induction phrases with
  | nil => rfl
  | cons phrase rest ih =>
      obtain ⟨first, others⟩ := List.forall_mem_cons.mp apart
      simp only [holdsAny, List.any_cons, holds_remark first remark] at ih ⊢
      rw [ih others]

theorem mentionsApp_remark (remark : right ⊆ remarkable) :
    mentionsApp (left ++ ' ' :: '(' :: right) = mentionsApp left := by
  have words : wordsFrom [] (left ++ ' ' :: '(' :: right) =
      wordsFrom [] left ++ wordsFrom [] ([] ++ '(' :: right) :=
    wordsFrom_append (by decide) [] left ('(' :: right)
  have named : ∀ name ∈ ["app", "apps", "application"], 'p' ∈ name.toList := by decide
  have unnamed : ∀ word ∈ wordsFrom [] right, ∀ name ∈ ["app", "apps", "application"],
      name.toList ≠ word := by
    rintro word found name listed rfl
    rcases mem_of_wordsFrom found 'p' (named name listed) with none | within
    · cases none
    · exact absurd (remark within) (by decide)
  have silent : ((wordsFrom [] right).any fun word =>
      ["app", "apps", "application"].any fun name => name.toList == word) = false := by
    simpa using unnamed
  rw [mentionsApp, words, wordsFrom_append (by decide) [] [] right, List.any_append,
    List.any_append, silent]
  simp [mentionsApp, wordsFrom]

def Clue.wanted : Clue → List String
  | .phrases any => any
  | .bothPhrases any other => any ++ other
  | .app => []

theorem found_remark {clue : Clue} (apart : ∀ phrase ∈ clue.wanted, IsApart phrase.toList)
    (remark : right ⊆ remarkable) :
    clue.found (left ++ ' ' :: '(' :: right) = clue.found left := by
  cases clue with
  | phrases any => exact holdsAny_remark apart remark
  | bothPhrases any other =>
      obtain ⟨first, second⟩ := List.forall_mem_append.mp apart
      simp only [Clue.found, holdsAny_remark first remark, holdsAny_remark second remark]
  | app => exact mentionsApp_remark remark

theorem rules_apart : ∀ rule ∈ rules, ∀ phrase ∈ rule.1.wanted, IsApart phrase.toList := by
  decide

theorem verdict_remark (remark : right ⊆ remarkable) :
    ∀ rule ∈ rules, rule.2 (left ++ ' ' :: '(' :: right) = rule.2 left := by
  have wrong : holdsAny ["wrong", "another app", "different app"] (left ++ ' ' :: '(' :: right) =
      holdsAny ["wrong", "another app", "different app"] left :=
    holdsAny_remark (by decide) remark
  simp [rules, wrong]

theorem lowerAscii_remark (text : List Char) (remark : right ⊆ remarkable) :
    lowerAscii (text ++ ' ' :: '(' :: right) = lowerAscii text ++ ' ' :: '(' :: right := by
  have all : remarkable.map Char.toLower = remarkable.map id := by decide
  have lower : ∀ character ∈ remarkable, character.toLower = character := List.map_inj_left.mp all
  have same : right.map Char.toLower = right :=
    (List.map_congr_left fun character member => lower character (remark member)).trans
      (List.map_id' right)
  simp [lowerAscii, same]

/-- A remark of hexadecimal digits in brackets does not change what a message says. -/
theorem code_remark {message text : String} (remark : right ⊆ remarkable)
    (remarked : text.toList = message.toList ++ ' ' :: '(' :: right) :
    code text = code message := by
  have lower := lowerAscii_remark message.toList remark
  rw [← remarked] at lower
  have same : rules.find? (fun rule => rule.1.found (lowerAscii text.toList)) =
      rules.find? fun rule => rule.1.found (lowerAscii message.toList) := by
    refine List.find?_congr fun rule listed => ?_
    rw [lower, found_remark (rules_apart rule listed) remark]
  simp only [code, same]
  split
  next rule found =>
    rw [lower, verdict_remark remark rule (List.mem_of_find?_eq_some found)]
  next => rfl

end Message

end SignerLink
