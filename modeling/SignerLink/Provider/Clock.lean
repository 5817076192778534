import SignerLink.Provider.Strand
/-!
Running the strands of a provider one after the other. Time stands still while any of them can
move, and then jumps to when the next one is due.
-/

namespace SignerLink

namespace Provider

variable {Bench : Type} [AdapterBench Bench]

/-- More steps than any settling needs. -/
def stepLimit : Nat := 1000000

def poll : Nat → Provider Bench → StrandId → Provider Bench
  | 0, provider, _ => provider
  | fuel + 1, provider, id =>
      match provider.strand? id with
      | none => provider
      | some strand =>
          if provider.canMove strand then poll fuel (provider.advance strand).letGo id
          else provider

def movable (provider : Provider Bench) (aside : Option StrandId) : List StrandId :=
  (provider.strands.filter fun strand =>
    aside != some strand.id && provider.canMove strand).map Strand.id

/-- Runs all strands but one until each has to wait. Strands that become able to move queue
up. -/
def drain : Nat → Provider Bench → Option StrandId → List StrandId → Provider Bench
  | 0, provider, _, _ => provider
  | fuel + 1, provider, aside, queue =>
      match queue ++ (provider.movable aside).filter (!queue.contains ·) with
      | [] => provider
      | id :: rest => drain fuel (provider.poll fuel id) aside rest

def rest (provider : Provider Bench) : Provider Bench := provider.drain stepLimit none []

def due? (strand : Strand) : Option Nat :=
  match strand.call with
  | some (.joining _ _, _) => none
  | some (_, due) => some due
  | none =>
      match strand.duty with
      | .retry _ _ due => some due
      | _ => none

def nextDue? (provider : Provider Bench) : Option Nat :=
  ((provider.strands.filterMap due?).filter (provider.now < ·)).min?

def follow : Nat → Provider Bench → StrandId → Provider Bench
  | 0, provider, _ => provider
  | fuel + 1, provider, id =>
      let provider := provider.poll stepLimit id
      if !provider.isAlive id then provider
      else
        let provider := provider.drain stepLimit (some id) []
        if (provider.strand? id).any provider.canMove then follow fuel provider id
        else
          match provider.nextDue? with
          | none => provider
          | some due => follow fuel { provider with now := due } id

def reply? (provider : Provider Bench) (id : StrandId) : Option Reply :=
  provider.replies.lookup id

/-- Makes a request and waits for its answer, then for everything that can run without time
passing. -/
def call (provider : Provider Bench) (request : Request) : Provider Bench × Option Reply :=
  let (provider, id) := provider.spawn (.caller request)
  let provider := provider.follow stepLimit id
  (provider.rest, provider.reply? id)

def start (provider : Provider Bench) (request : Request) : Provider Bench × StrandId :=
  let (provider, id) := provider.spawn (.caller request)
  (provider.rest, id)

end Provider

end SignerLink
