import SignerLink.Toml.Text
/-!
Every text reads back from the way it is written, in each of the four styles. What follows the text
starts with a new line, so that it adds no quote to the closing ones.
-/

namespace SignerLink

namespace Toml

variable {character mark : Char} {text more rest : List Char}

/-! Characters. -/

theorem codePoint?_below (small : character.toNat < 128) :
    codePoint? ['0', '0', upperHexDigit (character.toNat / 16),
      upperHexDigit (character.toNat % 16)] = some character := by
  have all : ∀ value < 128, codePoint? ['0', '0', upperHexDigit (value / 16),
      upperHexDigit (value % 16)] = some (Char.ofNat value) := by decide
  rw [all _ small, Char.ofNat_toNat]

theorem isControl_below (control : isControl character = true) : character.toNat < 128 := by
  simp only [isControl, Bool.or_eq_true, Bool.and_eq_true, decide_eq_true_eq, beq_iff_eq] at control
  omega

theorem ne_line_of_plain (plain : isControl character = false) :
    character ≠ '\n' ∧ character ≠ '\r' := by
  constructor
  · rintro rfl
    cases plain
  · rintro rfl
    cases plain

theorem escape_cases (character : Char) :
    (∃ mark, escape character = ['\\', mark] ∧ escaped? mark = some character) ∨
    (∃ high low, escape character = ['\\', 'u', '0', '0', high, low] ∧
      codePoint? ['0', '0', high, low] = some character) ∨
    (escape character = [character] ∧ character ≠ '\\' ∧ isControl character = false) := by
  simp only [escape]
  split
  next same =>
    subst same
    exact .inl ⟨_, rfl, by decide⟩
  next backslash =>
    split
    next same =>
      subst same
      exact .inl ⟨_, rfl, by decide⟩
    split
    next same =>
      subst same
      exact .inl ⟨_, rfl, by decide⟩
    split
    next same =>
      subst same
      exact .inl ⟨_, rfl, by decide⟩
    split
    next same =>
      subst same
      exact .inl ⟨_, rfl, by decide⟩
    split
    next control => exact .inr (.inl ⟨_, _, rfl, codePoint?_below (isControl_below control)⟩)
    next plain => exact .inr (.inr ⟨rfl, backslash, by simpa using plain⟩)

theorem ne_of_escaped? (named : escaped? mark = some character) : mark ≠ 'u' ∧ mark ≠ 'U' := by
  constructor
  · rintro rfl
    simp [escaped?] at named
  · rintro rfl
    simp [escaped?] at named

theorem escape_eq_cons (character : Char) : ∃ first more, escape character = first :: more ∧
    (first = '\\' ∨ first = character ∧ isControl character = false) := by
  obtain ⟨mark, written, _⟩ | ⟨high, low, written, _⟩ | ⟨written, _, plain⟩ :=
    escape_cases character
  · exact ⟨_, _, written, .inl rfl⟩
  · exact ⟨_, _, written, .inl rfl⟩
  · exact ⟨_, _, written, .inr ⟨rfl, plain⟩⟩

/-- The reader takes a character from each of the ways to write it. -/
structure Unescapes (read : List Char → TextRead) : Prop where
  mark : ∀ {character mark : Char} {more : List Char}, escaped? mark = some character →
    read ('\\' :: mark :: more) = TextRead.push character (read more)
  number : ∀ {character high low : Char} {more : List Char},
    codePoint? ['0', '0', high, low] = some character →
      read ('\\' :: 'u' :: '0' :: '0' :: high :: low :: more) = TextRead.push character (read more)
  plain : ∀ {character : Char} {more : List Char}, character ≠ '"' → character ≠ '\\' →
    isControl character = false → read (character :: more) = TextRead.push character (read more)

theorem Unescapes.escape {read : List Char → TextRead} (unescapes : Unescapes read)
    (quote : character ≠ '"') (more : List Char) :
    read (escape character ++ more) = TextRead.push character (read more) := by
  obtain ⟨mark, written, named⟩ | ⟨high, low, written, named⟩ | ⟨written, backslash, plain⟩ :=
    escape_cases character
  · rw [written]
    exact unescapes.mark named
  · rw [written]
    exact unescapes.number named
  · rw [written]
    exact unescapes.plain quote backslash plain

/-! One line. -/

theorem basicTail?_unescapes : Unescapes basicTail? where
  mark named := by
    obtain ⟨short, long⟩ := ne_of_escaped? named
    simp [basicTail?, short, long, named]
  number named := by simp [basicTail?, named]
  plain quote backslash plain := by simp [basicTail?, backslash, plain]

theorem basicTail?_escapeBasic (text rest : List Char) :
    basicTail? (escapeBasic text ++ '"' :: rest) = some (text, rest) := by
  induction text with
  | nil => simp [escapeBasic, basicTail?]
  | cons character text ih =>
      have read : basicTail? (escapeBasic (character :: text) ++ '"' :: rest) =
          TextRead.push character (basicTail? (escapeBasic text ++ '"' :: rest)) := by
        rw [escapeBasic, List.append_assoc]
        split
        next quote =>
          subst quote
          exact basicTail?_unescapes.mark rfl
        next quote =>
          split
          next line =>
            subst line
            exact basicTail?_unescapes.mark rfl
          next => exact basicTail?_unescapes.escape quote _
      rw [read, ih]
      rfl

theorem literalTail?_append {text : List Char} (rest : List Char)
    (plain : ∀ character ∈ text, isControl character = false ∧ character ≠ '\'') :
    literalTail? (text ++ '\'' :: rest) = some (text, rest) := by
  induction text with
  | nil => simp [literalTail?]
  | cons character text ih =>
      obtain ⟨⟨control, quote⟩, later⟩ := List.forall_mem_cons.mp plain
      simp [literalTail?, control, ih later, TextRead.push]

/-! Several lines. -/

theorem isLineRest_of_escaped? (named : escaped? mark = some character) (more : List Char) :
    isLineRest (mark :: more) = false := by
  rw [isLineRest.eq_def]
  split
  all_goals simp_all [escaped?]

theorem basicLinesTail?_unescapes : Unescapes (basicLinesTail? false) where
  mark named := by
    obtain ⟨short, long⟩ := ne_of_escaped? named
    simp [basicLinesTail?, short, long, named, isLineRest_of_escaped? named]
  number named := by simp [basicLinesTail?, named]
  plain {character more} quote backslash plain := by
    obtain ⟨line, carriage⟩ := ne_line_of_plain plain
    rw [basicLinesTail?.eq_def]
    simp only [Bool.false_eq_true, if_false]
    split
    all_goals simp_all

theorem basicLinesTail?_line :
    basicLinesTail? false ('\n' :: more) = TextRead.push '\n' (basicLinesTail? false more) := by
  simp [basicLinesTail?]

theorem basicLinesTail?_quote (apart : ∀ rest, more ≠ '"' :: '"' :: rest) :
    basicLinesTail? false ('"' :: more) = TextRead.push '"' (basicLinesTail? false more) := by
  have control : isControl '"' = false := by decide
  simp [basicLinesTail?, apart, control]

theorem escapeLines_ne_quote {quotes : Nat} (text more rest : List Char)
    (third : character = '"' → 2 ≤ quotes) :
    escapeLines quotes (character :: text) ++ more ≠ '"' :: rest := by
  rw [escapeLines]
  split
  next quote =>
    rw [if_neg (Nat.not_lt.mpr (third quote))]
    simp
  next quote =>
    split
    next => simp
    next =>
      obtain ⟨first, later, written, rfl | ⟨rfl, _⟩⟩ := escape_eq_cons character
      · simp [written]
      · simp [written, quote]

theorem escapeLines_apart {quotes : Nat} (few : quotes < 2) (more : List Char)
    (further : text ≠ []) (second : quotes = 0 → text ≠ ['"']) (rest : List Char) :
    escapeLines (quotes + 1) text ++ more ≠ '"' :: '"' :: rest := by
  rcases text with _ | ⟨next, text⟩
  · exact absurd rfl further
  by_cases third : next = '"' → 2 ≤ quotes + 1
  · exact escapeLines_ne_quote text more _ third
  obtain ⟨rfl, below⟩ := Classical.not_imp.mp third
  obtain rfl : quotes = 0 := by omega
  rcases text with _ | ⟨other, text⟩
  · exact absurd rfl (second rfl)
  intro same
  have later := (List.cons.inj same).2
  exact escapeLines_ne_quote text more rest (fun _ => Nat.le_refl 2) later

theorem basicLinesTail?_escapeLines (quotes : Nat) (text : List Char)
    (after : ∀ more, rest ≠ '"' :: more) :
    basicLinesTail? false (escapeLines quotes text ++ '"' :: '"' :: '"' :: rest) =
      some (text, rest) := by
  induction text generalizing quotes with
  | nil => simp [escapeLines, basicLinesTail?, after]
  | cons character text ih =>
      by_cases quote : character = '"'
      · subst quote
        by_cases few : quotes < 2
        · have written : escapeLines quotes ('"' :: text) =
              '"' :: escapeLines (quotes + 1) text := by
            simp [escapeLines, few]
          rw [written, List.cons_append]
          by_cases last : text = []
          · subst last
            simp [escapeLines, basicLinesTail?]
          by_cases pair : quotes = 0 ∧ text = ['"']
          · obtain ⟨rfl, rfl⟩ := pair
            simp [escapeLines, basicLinesTail?]
          rw [basicLinesTail?_quote (escapeLines_apart few _ last (not_and.mp pair)), ih]
          rfl
        · have written : escapeLines quotes ('"' :: text) =
              '\\' :: '"' :: escapeLines 0 text := by
            simp [escapeLines, few]
          rw [written, List.cons_append, List.cons_append, basicLinesTail?_unescapes.mark rfl, ih]
          rfl
      · rw [escapeLines, if_neg quote]
        split
        next line =>
          rw [line, List.cons_append, basicLinesTail?_line, ih]
          rfl
        next =>
          rw [List.append_assoc, basicLinesTail?_unescapes.escape quote, ih]
          rfl

theorem literalLinesTail?_line :
    literalLinesTail? ('\n' :: more) = TextRead.push '\n' (literalLinesTail? more) := by
  simp [literalLinesTail?]

theorem literalLinesTail?_quote (apart : ∀ rest, more ≠ '\'' :: '\'' :: rest) :
    literalLinesTail? ('\'' :: more) = TextRead.push '\'' (literalLinesTail? more) := by
  have control : isControl '\'' = false := by decide
  simp [literalLinesTail?, apart, control]

theorem literalLinesTail?_plain (quote : character ≠ '\'')
    (plain : isControl character = false) :
    literalLinesTail? (character :: more) = TextRead.push character (literalLinesTail? more) := by
  obtain ⟨line, carriage⟩ := ne_line_of_plain plain
  rw [literalLinesTail?.eq_def]
  split
  all_goals simp_all

theorem hasTriple_cons (mark character : Char)
    (apart : hasTriple mark (character :: text) = false) :
    hasTriple mark text = false := by
  rcases text with _ | ⟨second, _ | ⟨third, text⟩⟩
  · rfl
  · rfl
  · rw [hasTriple, Bool.or_eq_false_iff] at apart
    exact apart.2

theorem quotes_apart (apart : hasTriple mark (mark :: text) = false) (further : text ≠ [])
    (second : text ≠ [mark]) (more rest : List Char) : text ++ more ≠ mark :: mark :: rest := by
  rcases text with _ | ⟨next, _ | ⟨other, text⟩⟩
  · exact absurd rfl further
  · intro same
    exact second (by rw [(List.cons.inj same).1])
  · intro same
    obtain ⟨rfl, same⟩ := List.cons.inj same
    obtain ⟨rfl, _⟩ := List.cons.inj same
    simp [hasTriple] at apart

def IsRaw (text : List Char) : Prop :=
  ∀ character ∈ text, isControl character = false ∨ character = '\n'

theorem literalLinesTail?_append {text : List Char} (raw : IsRaw text)
    (apart : hasTriple '\'' text = false) (after : ∀ more, rest ≠ '\'' :: more) :
    literalLinesTail? (text ++ '\'' :: '\'' :: '\'' :: rest) = some (text, rest) := by
  induction text with
  | nil => simp [literalLinesTail?, after]
  | cons character text ih =>
      obtain ⟨here, later⟩ := List.forall_mem_cons.mp raw
      have read := ih later (hasTriple_cons _ _ apart)
      rw [List.cons_append]
      by_cases quote : character = '\''
      · subst quote
        by_cases last : text = []
        · subst last
          simp [literalLinesTail?]
        by_cases pair : text = ['\'']
        · subst pair
          simp [literalLinesTail?]
        rw [literalLinesTail?_quote (quotes_apart apart last pair _), read]
        rfl
      · rcases here with control | line
        · rw [literalLinesTail?_plain quote control, read]
          rfl
        · rw [line, literalLinesTail?_line, read]
          rfl

/-! Styles. -/

theorem text?_basic (apart : ∀ rest, more ≠ '"' :: '"' :: rest) :
    text? ('"' :: more) = basicTail? more := by
  simp [text?, lineText?, apart]

theorem text?_literal (apart : ∀ rest, more ≠ '\'' :: '\'' :: rest) :
    text? ('\'' :: more) = literalTail? more := by
  simp [text?, lineText?, apart]

theorem escapeBasic_ne_quote (character : Char) (text more rest : List Char) :
    escapeBasic (character :: text) ++ more ≠ '"' :: rest := by
  rw [escapeBasic]
  split
  next => simp
  next quote =>
    split
    next => simp
    next =>
      obtain ⟨first, later, written, rfl | ⟨rfl, _⟩⟩ := escape_eq_cons character
      · simp [written]
      · simp [written, quote]

theorem dropLine_of_head (line : character ≠ '\n') (carriage : character ≠ '\r') :
    dropLine (character :: more) = character :: more := by
  rw [dropLine.eq_def]
  split
  all_goals simp_all

theorem dropLine_escapeLines (more : List Char) (single : '\n' ∉ text) :
    dropLine (escapeLines 0 text ++ '"' :: more) = escapeLines 0 text ++ '"' :: more := by
  rcases text with _ | ⟨character, text⟩
  · exact dropLine_of_head (by decide) (by decide)
  have line : character ≠ '\n' := by
    rintro rfl
    exact single List.mem_cons_self
  rw [escapeLines]
  split
  next => exact dropLine_of_head (by decide) (by decide)
  next =>
    obtain ⟨first, later, written, rfl | ⟨rfl, plain⟩⟩ := escape_eq_cons character
    · rw [written]
      exact dropLine_of_head (by decide) (by decide)
    · rw [written]
      exact dropLine_of_head line (ne_line_of_plain plain).2

namespace TextStyle

theorem of_literal (chosen : ofText text = .literal) :
    text ≠ [] ∧ ∀ character ∈ text, isControl character = false ∧ character ≠ '\'' := by
  have further : text ≠ [] := by
    rintro rfl
    exact absurd chosen (by decide)
  refine ⟨further, ?_⟩
  simp only [ofText] at chosen
  split at chosen
  next => cases chosen
  split at chosen
  next held =>
    simp only [Bool.and_eq_true, Bool.not_eq_true', List.all_eq_true, Bool.or_eq_true, beq_iff_eq,
      List.contains_eq_mem, decide_eq_false_iff_not] at held
    obtain ⟨⟨raw, single⟩, apart⟩ := held
    refine fun character member => ⟨(raw character member).resolve_right ?_, ?_⟩
    · rintro rfl
      exact single member
    · rintro rfl
      exact apart member
  split at chosen
  next => cases chosen
  split at chosen
  next => cases chosen
  split at chosen
  next => cases chosen
  next => cases chosen

theorem of_literalLines (chosen : ofText text = .literalLines) :
    IsRaw text ∧ hasTriple '\'' text = false := by
  simp only [ofText] at chosen
  split at chosen
  next => cases chosen
  split at chosen
  next => cases chosen
  split at chosen
  next => cases chosen
  split at chosen
  next held =>
    simp only [Bool.and_eq_true, Bool.not_eq_true', List.all_eq_true, Bool.or_eq_true,
      beq_iff_eq] at held
    exact held
  split at chosen
  next => cases chosen
  next => cases chosen

end TextStyle

section Quoted

variable (text rest : List Char)

theorem text?_basicQuoted :
    text? ('"' :: (escapeBasic text ++ '"' :: '\n' :: rest)) = some (text, '\n' :: rest) := by
  rcases text with _ | ⟨character, text⟩
  · simp [escapeBasic, text?, lineText?, basicTail?]
  · rw [text?_basic fun more => escapeBasic_ne_quote character text _ _, basicTail?_escapeBasic]

variable {text} in
theorem text?_literalQuoted (style : TextStyle.ofText text = .literal) :
    text? ('\'' :: (text ++ '\'' :: '\n' :: rest)) = some (text, '\n' :: rest) := by
  obtain ⟨further, plain⟩ := TextStyle.of_literal style
  rw [text?_literal, literalTail?_append _ plain]
  intro more same
  rcases text with _ | ⟨character, text⟩
  · exact further rfl
  · exact (plain character List.mem_cons_self).2 (List.cons.inj same).1

theorem text?_basicLinesQuoted :
    text? ('"' :: '"' :: '"' :: (leadingLine text ++ (escapeLines 0 text ++
      '"' :: '"' :: '"' :: '\n' :: rest))) = some (text, '\n' :: rest) := by
  have lines : basicLinesTail? false (escapeLines 0 text ++ '"' :: '"' :: '"' :: '\n' :: rest) =
      some (text, '\n' :: rest) :=
    basicLinesTail?_escapeLines 0 text (by simp)
  rw [text?, leadingLine]
  split
  next => exact lines
  next single =>
    have absent : '\n' ∉ text := by simpa using single
    rw [List.nil_append, dropLine_escapeLines _ absent, lines]

variable {text} in
theorem text?_literalLinesQuoted (style : TextStyle.ofText text = .literalLines) :
    text? ('\'' :: '\'' :: '\'' :: (leadingLine text ++ (text ++
      '\'' :: '\'' :: '\'' :: '\n' :: rest))) = some (text, '\n' :: rest) := by
  obtain ⟨raw, apart⟩ := TextStyle.of_literalLines style
  have lines : literalLinesTail? (text ++ '\'' :: '\'' :: '\'' :: '\n' :: rest) =
      some (text, '\n' :: rest) :=
    literalLinesTail?_append raw apart (by simp)
  rw [text?, leadingLine]
  split
  next => exact lines
  next single =>
    have absent : '\n' ∉ text := by simpa using single
    suffices dropLine (text ++ '\'' :: '\'' :: '\'' :: '\n' :: rest) = _ by
      rw [List.nil_append, this, lines]
    rcases text with _ | ⟨character, text⟩
    · exact dropLine_of_head (by decide) (by decide)
    · have line : character ≠ '\n' := fun same => absent (same ▸ List.mem_cons_self)
      have plain := (raw character List.mem_cons_self).resolve_right line
      exact dropLine_of_head line (ne_line_of_plain plain).2

/-- What is read from quoted text, before the end of a line, is the text. -/
theorem text?_quoted : text? (quoted text ++ '\n' :: rest) = some (text, '\n' :: rest) := by
  rw [quoted]
  cases style : TextStyle.ofText text with
  | basic => simpa using text?_basicQuoted text rest
  | literal => simpa using text?_literalQuoted rest style
  | basicLines => simpa using text?_basicLinesQuoted text rest
  | literalLines => simpa using text?_literalLinesQuoted rest style

end Quoted

end Toml

end SignerLink
