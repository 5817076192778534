import SignerLink.Json.Record
/-!
Spans of time and the delay before a retry: it doubles with every retry up to a greatest delay.
-/

namespace SignerLink

/-- A span of time in whole nanoseconds, at most `2 ^ 64` seconds less one nanosecond. -/
structure Span where
  nanoseconds : Nat
  deriving DecidableEq, Repr

namespace Span

def ofParts (seconds nanoseconds : Nat) : Span := ⟨seconds * 1000000000 + nanoseconds⟩

def ofMilliseconds (milliseconds : Nat) : Span := ⟨milliseconds * 1000000⟩

def seconds (span : Span) : Nat := span.nanoseconds / 1000000000

def fraction (span : Span) : Nat := span.nanoseconds % 1000000000

def greatest : Span := ofParts (Nat.pow 2 64 - 1) 999999999

def times (span : Span) (factor : Nat) : Span :=
  ⟨min (span.nanoseconds * factor) greatest.nanoseconds⟩

def least (left right : Span) : Span := if left.nanoseconds ≤ right.nanoseconds then left else right

def toJson (span : Span) : Json :=
  Json.ofPairs [("secs", Json.natural span.seconds), ("nanos", Json.natural span.fraction)]

def ofJson? (json : Json) : Option Span := do
  return ofParts (← json.naturalField? "secs") (← json.naturalField? "nanos")

/-- Whole milliseconds, counted up. -/
def milliseconds (span : Span) : Nat := (span.nanoseconds + 999999) / 1000000

end Span

structure AutoConnectPolicy where
  enabled : Bool := true
  initialDelay : Span := .ofParts 2 0
  greatestDelay : Span := .ofParts 30 0
  retryLimit : Nat := 3
  deriving DecidableEq, Repr

namespace AutoConnectPolicy

/-- A power of two held at the greatest factor of 32 bits. -/
def retryFactor (attempt : Nat) : Nat :=
  if attempt < 32 then Nat.pow 2 attempt else Nat.pow 2 32 - 1

def retryDelay (policy : AutoConnectPolicy) (attempt : Nat) : Span :=
  (policy.initialDelay.times (retryFactor attempt)).least policy.greatestDelay

end AutoConnectPolicy

end SignerLink
