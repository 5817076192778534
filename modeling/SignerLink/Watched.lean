/-!
A published value and those who watch it. A watcher sees the latest value only; values that
were published and replaced between two looks are not shown.
-/

namespace SignerLink

/-- The latest value, and how many were published before it. -/
structure Watched (α : Type) where
  value : α
  version : Nat := 0
  deriving DecidableEq, Repr

def Watched.publish {α : Type} (watched : Watched α) (value : α) : Watched α :=
  ⟨value, watched.version + 1⟩

inductive Look (α : Type) where
  | pending
  | found (value : α)
  | ended
  deriving DecidableEq, Repr

def Look.toList {α : Type} : Look α → List α
  | .found value => [value]
  | .pending | .ended => []

structure Watcher (α : Type) where
  current : α
  seen : Nat
  deriving DecidableEq, Repr

namespace Watcher

variable {α : Type}

def subscribe (watched : Watched α) : Watcher α := ⟨watched.value, watched.version⟩

def latest (_ : Watcher α) (watched : Watched α) : α := watched.value

def changed (watcher : Watcher α) (watched : Watched α) (closed : Bool) :
    Watcher α × Look α :=
  if watched.version ≠ watcher.seen then (⟨watched.value, watched.version⟩, .found watched.value)
  else (watcher, if closed then .ended else .pending)

/-- The latest value if it passes the test. Looking marks it as seen either way. -/
def waitFor (watcher : Watcher α) (watched : Watched α) (closed : Bool) (test : α → Bool) :
    Watcher α × Look α :=
  if test watched.value then (⟨watched.value, watched.version⟩, .found watched.value)
  else ({ watcher with seen := watched.version }, if closed then .ended else .pending)

end Watcher

/-- A watcher that reports the value it starts with, then every change that it sees. -/
structure WatchStream (α : Type) where
  watcher : Watcher α
  started : Bool := false
  deriving DecidableEq, Repr

namespace WatchStream

variable {α : Type}

def ofWatcher (watcher : Watcher α) : WatchStream α := ⟨watcher, false⟩

def next (stream : WatchStream α) (watched : Watched α) (closed : Bool) :
    WatchStream α × Look α :=
  if stream.started then
    let (watcher, look) := stream.watcher.changed watched closed
    (⟨watcher, true⟩, look)
  else (⟨⟨watched.value, watched.version⟩, true⟩, .found watched.value)

end WatchStream

end SignerLink
