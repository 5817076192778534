import SignerLink.Json.Reader
/-!
Strings in TOML: four ways to write one, the choice among them, and reading all of them. What
is written reads back as the same text.
-/

namespace SignerLink

namespace Toml

def isControl (character : Char) : Bool :=
  (character.toNat < 32 && character != '\t') || character.toNat == 127

/-! Writing. -/

def hasTriple (mark : Char) : List Char → Bool
  | first :: second :: third :: rest =>
      (first == mark && second == mark && third == mark) ||
        hasTriple mark (second :: third :: rest)
  | _ => false

inductive TextStyle where
  | basic
  | literal
  | basicLines
  | literalLines
  deriving DecidableEq, Repr

/-- The first style that needs no escapes, otherwise the basic one. -/
def TextStyle.ofText (text : List Char) : TextStyle :=
  let raw := text.all fun character => !isControl character || character == '\n'
  let lines := text.contains '\n'
  if raw && !lines && !text.contains '\\' && !text.contains '"' then .basic
  else if raw && !lines && !text.contains '\'' then .literal
  else if raw && !text.contains '\\' && !hasTriple '"' text then .basicLines
  else if raw && !hasTriple '\'' text then .literalLines
  else if lines then .basicLines
  else .basic

def upperHexDigit (value : Nat) : Char :=
  if value < 10 then Char.ofNat (48 + value) else Char.ofNat (55 + value)

/-- A character between basic quotes; quotes and new lines are looked at before. -/
def escape (character : Char) : List Char :=
  if character = '\\' then ['\\', '\\']
  else if character = '\x08' then ['\\', 'b']
  else if character = '\t' then ['\\', 't']
  else if character = '\x0c' then ['\\', 'f']
  else if character = '\r' then ['\\', 'r']
  else if isControl character then
    ['\\', 'u', '0', '0', upperHexDigit (character.toNat / 16),
      upperHexDigit (character.toNat % 16)]
  else [character]

def escapeBasic : List Char → List Char
  | [] => []
  | character :: rest =>
      let written :=
        if character = '"' then ['\\', '"']
        else if character = '\n' then ['\\', 'n']
        else escape character
      written ++ escapeBasic rest

/-- Over several lines, a quote is escaped after two that are not. -/
def escapeLines (quotes : Nat) : List Char → List Char
  | [] => []
  | character :: rest =>
      if character = '"' then
        if quotes < 2 then '"' :: escapeLines (quotes + 1) rest
        else '\\' :: '"' :: escapeLines 0 rest
      else if character = '\n' then '\n' :: escapeLines 0 rest
      else escape character ++ escapeLines 0 rest

/-- A new line right after the opening quotes is not part of the text. -/
def leadingLine (text : List Char) : List Char := if text.contains '\n' then ['\n'] else []

def quoted (text : List Char) : List Char :=
  match TextStyle.ofText text with
  | .basic => ['"'] ++ escapeBasic text ++ ['"']
  | .literal => ['\''] ++ text ++ ['\'']
  | .basicLines =>
      ['"', '"', '"'] ++ leadingLine text ++ escapeLines 0 text ++ ['"', '"', '"']
  | .literalLines =>
      ['\'', '\'', '\''] ++ leadingLine text ++ text ++ ['\'', '\'', '\'']

def quote (text : String) : String := String.ofList (quoted text.toList)

/-! Reading. -/

abbrev TextRead := Option (List Char × List Char)

def TextRead.push (character : Char) (read : TextRead) : TextRead :=
  read.map fun (text, rest) => (character :: text, rest)

def codePoint? (digits : List Char) : Option Char := do
  let value ← digits.foldlM
    (fun value digit => (Json.hexValue? digit).map (16 * value + ·)) 0
  if value.isValidChar then some (Char.ofNat value) else none

def escaped? (mark : Char) : Option Char :=
  if mark = '"' then some '"'
  else if mark = '\\' then some '\\'
  else if mark = 'b' then some '\x08'
  else if mark = 't' then some '\t'
  else if mark = 'n' then some '\n'
  else if mark = 'f' then some '\x0c'
  else if mark = 'r' then some '\r'
  else none

def basicTail? : List Char → TextRead
  | '"' :: rest => some ([], rest)
  | '\\' :: 'u' :: a :: b :: c :: d :: rest => do
      TextRead.push (← codePoint? [a, b, c, d]) (basicTail? rest)
  | '\\' :: 'U' :: a :: b :: c :: d :: e :: f :: g :: h :: rest => do
      TextRead.push (← codePoint? [a, b, c, d, e, f, g, h]) (basicTail? rest)
  | '\\' :: mark :: rest => do TextRead.push (← escaped? mark) (basicTail? rest)
  | character :: rest =>
      if isControl character || character == '\\' then none
      else TextRead.push character (basicTail? rest)
  | [] => none

def literalTail? : List Char → TextRead
  | '\'' :: rest => some ([], rest)
  | character :: rest =>
      if isControl character then none else TextRead.push character (literalTail? rest)
  | [] => none

def isLineRest : List Char → Bool
  | ' ' :: rest | '\t' :: rest => isLineRest rest
  | '\n' :: _ | '\r' :: '\n' :: _ => true
  | _ => false

/-- The rest of a basic string over several lines. A backslash at the end of a line skips all
blanks and new lines after it. -/
def basicLinesTail? (skipping : Bool) (text : List Char) : TextRead :=
  if skipping then
    match text with
    | ' ' :: rest | '\t' :: rest | '\n' :: rest | '\r' :: '\n' :: rest =>
        basicLinesTail? true rest
    | text => basicLinesTail? false text
  else
    match text with
    | '"' :: '"' :: '"' :: '"' :: '"' :: rest => some (['"', '"'], rest)
    | '"' :: '"' :: '"' :: '"' :: rest => some (['"'], rest)
    | '"' :: '"' :: '"' :: rest => some ([], rest)
    | '\\' :: 'u' :: a :: b :: c :: d :: rest => do
        TextRead.push (← codePoint? [a, b, c, d]) (basicLinesTail? false rest)
    | '\\' :: 'U' :: a :: b :: c :: d :: e :: f :: g :: h :: rest => do
        TextRead.push (← codePoint? [a, b, c, d, e, f, g, h]) (basicLinesTail? false rest)
    | '\\' :: mark :: rest =>
        if isLineRest (mark :: rest) then basicLinesTail? true (mark :: rest)
        else do TextRead.push (← escaped? mark) (basicLinesTail? false rest)
    | '\r' :: '\n' :: rest => TextRead.push '\n' (basicLinesTail? false rest)
    | '\n' :: rest => TextRead.push '\n' (basicLinesTail? false rest)
    | character :: rest =>
        if isControl character || character == '\\' then none
        else TextRead.push character (basicLinesTail? false rest)
    | [] => none
termination_by (text.length, if skipping then 1 else 0)
decreasing_by all_goals simp_all [Prod.lex_def] <;> omega

def literalLinesTail? : List Char → TextRead
  | '\'' :: '\'' :: '\'' :: '\'' :: '\'' :: rest => some (['\'', '\''], rest)
  | '\'' :: '\'' :: '\'' :: '\'' :: rest => some (['\''], rest)
  | '\'' :: '\'' :: '\'' :: rest => some ([], rest)
  | '\r' :: '\n' :: rest => TextRead.push '\n' (literalLinesTail? rest)
  | '\n' :: rest => TextRead.push '\n' (literalLinesTail? rest)
  | character :: rest =>
      if isControl character then none else TextRead.push character (literalLinesTail? rest)
  | [] => none

def dropLine : List Char → List Char
  | '\n' :: rest | '\r' :: '\n' :: rest => rest
  | text => text

def lineText? : List Char → TextRead
  | '"' :: rest => basicTail? rest
  | '\'' :: rest => literalTail? rest
  | _ => none

def text? : List Char → TextRead
  | '"' :: '"' :: '"' :: rest => basicLinesTail? false (dropLine rest)
  | '\'' :: '\'' :: '\'' :: rest => literalLinesTail? (dropLine rest)
  | text => lineText? text

end Toml

end SignerLink
