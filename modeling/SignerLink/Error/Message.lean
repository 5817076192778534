import SignerLink.Error.Code
/-!
What a message says about the failure: the first rule that applies decides.
-/

namespace SignerLink

namespace Message

def lowerAscii (text : List Char) : List Char := text.map Char.toLower

def holds (phrase : List Char) : List Char → Bool
  | [] => phrase.isEmpty
  | character :: rest => phrase.isPrefixOf (character :: rest) || holds phrase rest

def holdsAny (phrases : List String) (text : List Char) : Bool :=
  phrases.any fun phrase => holds phrase.toList text

/-- The maximal runs of ASCII letters and digits. -/
def wordsFrom (current : List Char) : List Char → List (List Char)
  | [] => [current.reverse]
  | character :: rest =>
      if character.isAlphanum then wordsFrom (character :: current) rest
      else current.reverse :: wordsFrom [] rest

def mentionsApp (text : List Char) : Bool :=
  (wordsFrom [] text).any fun word =>
    ["app", "apps", "application"].any fun name => name.toList == word

/-- What the rules look for in a lower-case text. -/
inductive Clue where
  | phrases (any : List String)
  | bothPhrases (any other : List String)
  | app

def Clue.found (clue : Clue) (text : List Char) : Bool :=
  match clue with
  | .phrases any => holdsAny any text
  | .bothPhrases any other => holdsAny any text && holdsAny other text
  | .app => mentionsApp text

def rules : List (Clue × (List Char → ErrorCode)) :=
  [(.phrases ["permission denied", "permission was denied", "access denied",
      "not allowed to access"], fun _ => .permissionDenied),
    (.phrases ["denied", "rejected", "reject"], fun _ => .userRejected),
    (.phrases ["cancel"], fun _ => .userCancelled),
    (.phrases ["blocked"], fun _ => .deviceBlocked),
    (.phrases ["locked", "unlock"], fun _ => .deviceLocked),
    (.phrases ["blind sign", "blind-sign", "contract data"], fun _ => .blindSigning),
    (.app, fun text =>
      if holdsAny ["wrong", "another app", "different app"] text then .wrongApp
      else .appClosed),
    (.phrases ["timeout", "timed out", "time out"], fun _ => .timeout),
    (.bothPhrases ["webhid", "webusb", "navigator.hid", "navigator.usb", "transport"]
      ["not supported", "unsupported", "not available", "unavailable", "missing"],
      fun _ => .transportMissing),
    (.phrases ["permission", "not allowed", "securityerror"], fun _ => .permissionDenied),
    (.phrases ["disconnected", "not found", "no device", "unplugged", "device lost"],
      fun _ => .deviceDisconnected),
    (.phrases ["closed"], fun _ => .connectionClosed),
    (.phrases ["connection", "connect", "transport"], fun _ => .connectionFailed)]

/-- Position of the first rule that applies; the number of rules when none does. -/
def rank (text : String) : Nat :=
  rules.findIdx fun rule => rule.1.found (lowerAscii text.toList)

def code (text : String) : ErrorCode :=
  let lower := lowerAscii text.toList
  match rules.find? fun rule => rule.1.found lower with
  | some rule => rule.2 lower
  | none => .unknown

end Message

end SignerLink
