/-!
Calls that may have to wait. A waiting call is kept as data and resumed after its delay;
everything between two waits is one step.
-/

namespace SignerLink

/-- A call waits, to be resumed after some milliseconds, or is over. -/
inductive Progress (Call Outcome : Type) where
  | waiting (call : Call) (milliseconds : Nat)
  | finished (outcome : Outcome)
  deriving Repr

namespace Progress

variable {Call Outcome OtherCall OtherOutcome : Type}

def map (wrap : Call → OtherCall) (report : Outcome → OtherOutcome) :
    Progress Call Outcome → Progress OtherCall OtherOutcome
  | .waiting call milliseconds => .waiting (wrap call) milliseconds
  | .finished outcome => .finished (report outcome)

end Progress

end SignerLink
