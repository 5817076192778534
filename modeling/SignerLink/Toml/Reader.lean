import SignerLink.Toml.Scalar
import SignerLink.Toml.Table
/-!
Reading TOML documents as JSON objects. Keys have fewer than 80 segments, and arrays and tables
inside a line nest less than 80 levels deep.
-/

namespace SignerLink

namespace Toml

/-! Blanks and comments. -/

def skipBlanks : List Char → List Char
  | ' ' :: rest | '\t' :: rest => skipBlanks rest
  | text => text

def skipComment : List Char → List Char
  | '#' :: rest => rest.dropWhile fun character => !isControl character
  | text => text

def nextLine? (text : List Char) : Option (List Char) :=
  match skipComment (skipBlanks text) with
  | [] => some []
  | '\n' :: rest | '\r' :: '\n' :: rest => some rest
  | _ => none

def skipLines : Nat → List Char → List Char
  | 0, text => text
  | fuel + 1, text =>
      match skipComment (skipBlanks text) with
      | '\n' :: rest | '\r' :: '\n' :: rest => skipLines fuel rest
      | text => text

def skipSpace (text : List Char) : List Char := skipLines (text.length + 1) text

/-! Keys. -/

def isBare (character : Char) : Bool :=
  character.isAlphanum || character == '_' || character == '-'

def segment? (text : List Char) : Option (String × List Char) :=
  match text with
  | '"' :: _ | '\'' :: _ => (lineText? text).map fun (key, rest) => (.ofList key, rest)
  | _ =>
      let key := text.takeWhile isBare
      if key.isEmpty then none else some (.ofList key, text.dropWhile isBare)

structure Key where
  path : List String
  last : String

def key? : Nat → List Char → Option (Key × List Char)
  | 0, _ => none
  | limit + 1, text => do
      let (segment, rest) ← segment? (skipBlanks text)
      match skipBlanks rest with
      | '.' :: rest =>
          let (key, rest) ← key? limit rest
          return ({ key with path := segment :: key.path }, rest)
      | rest => return (⟨[], segment⟩, rest)

def longestKey : Nat := 79

def deepestValue : Nat := 79

/-! Values. -/

mutual

def value? (fuel depth : Nat) (text : List Char) : ValueRead :=
  match fuel with
  | 0 => none
  | fuel + 1 =>
      match text with
      | '[' :: rest =>
          match depth with
          | 0 => none
          | depth + 1 =>
              match skipSpace rest with
              | ']' :: rest => some (.array [], rest)
              | rest => (items? fuel depth rest).map fun (items, rest) => (.array items, rest)
      | '\x7b' :: rest =>
          match depth with
          | 0 => none
          | depth + 1 =>
              match skipBlanks rest with
              | '\x7d' :: rest => some (.object [], rest)
              | rest => (pairs? fuel depth [] rest).map fun (entries, rest) =>
                  (entries.toJson, rest)
      | text => scalar? text

def items? (fuel depth : Nat) (text : List Char) : Option (List Json × List Char) :=
  match fuel with
  | 0 => none
  | fuel + 1 => do
      let (item, rest) ← value? fuel depth text
      match skipSpace rest with
      | ',' :: rest =>
          match skipSpace rest with
          | ']' :: rest => return ([item], rest)
          | rest =>
              let (items, rest) ← items? fuel depth rest
              return (item :: items, rest)
      | ']' :: rest => return ([item], rest)
      | _ => none

def pairs? (fuel depth : Nat) (entries : Entries) (text : List Char) :
    Option (Entries × List Char) :=
  match fuel with
  | 0 => none
  | fuel + 1 => do
      let (key, rest) ← key? longestKey text
      let (value, rest) ← value? fuel depth (skipBlanks (← past? '=' rest))
      let entries ← entries.assign? key.path key.last value
      match skipBlanks rest with
      | ',' :: rest => pairs? fuel depth entries rest
      | '\x7d' :: rest => return (entries, rest)
      | _ => none

end

/-! Lines. -/

/-- What the lines so far wrote, and the path of the table that the next ones add to. -/
structure Document where
  entries : Entries := []
  path : List String := []

def Document.assign? (document : Document) (key : Key) (value : Json) : Option Document := do
  let add (_ : Origin) (entries : Entries) : Option Entries :=
    entries.assign? key.path key.last value
  return { document with
    entries := ← document.entries.changeAt? false add document.path .header }

def header? (closing : List Char) (text : List Char) : Option (Key × List Char) := do
  let (key, rest) ← key? longestKey text
  if closing.isPrefixOf rest then
    return (key, ← nextLine? (rest.drop closing.length))
  else none

def line? (document : Document) (text : List Char) : Option (Document × List Char) :=
  match text with
  | '[' :: '[' :: rest => do
      let (key, rest) ← header? [']', ']'] rest
      return (⟨← document.entries.openNext? key.path key.last, key.path ++ [key.last]⟩, rest)
  | '[' :: rest => do
      let (key, rest) ← header? [']'] rest
      return (⟨← document.entries.openTable? key.path key.last, key.path ++ [key.last]⟩, rest)
  | _ => do
      let (key, rest) ← key? longestKey text
      let (value, rest) ←
        value? (2 * rest.length + 2) deepestValue (skipBlanks (← past? '=' rest))
      return (← document.assign? key value, ← nextLine? rest)

def lines? : Nat → Document → List Char → Option Document
  | 0, _, _ => none
  | fuel + 1, document, text =>
      match skipBlanks text with
      | [] => some document
      | text =>
          match nextLine? text with
          | some rest => lines? fuel document rest
          | none => do
              let (document, rest) ← line? document text
              lines? fuel document rest

def dropByteOrderMark : List Char → List Char
  | '\ufeff' :: rest => rest
  | text => text

def parse? (text : String) : Option Json := do
  let characters := dropByteOrderMark text.toList
  let document ← lines? (characters.length + 1) {} characters
  return document.entries.toJson

end Toml

end SignerLink
