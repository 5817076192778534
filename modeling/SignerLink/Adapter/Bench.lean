import SignerLink.Adapter.Error
import SignerLink.State.Event
/-!
Adapters as a session sees them. A bench holds every adapter that was created on it; answering
a request takes one step, or two with a delay between them.
-/

namespace SignerLink

/-- Numbers the connection attempts of a session, from one upward. -/
abbrev Token := Nat

abbrev AdapterId := Nat

structure Signal where
  adapter : AdapterId
  token : Token
  notice : Notice
  deriving DecidableEq, Repr

inductive AdapterRequest where
  | connect (deviceId : String)
  | verify (deviceId : String)
  | disconnect
  deriving DecidableEq, Repr

abbrev AdapterAnswer := Except AdapterError Bool

inductive AdapterReply where
  | now (answer : AdapterAnswer)
  | later (milliseconds : Nat)
  deriving Repr

class AdapterBench (Bench : Type) where
  create : Bench → Wallet → Token → Bench × Except WalletError AdapterId
  walletOf : Bench → AdapterId → Option Wallet
  isConnected : Bench → AdapterId → Bool
  destroy : Bench → AdapterId → Bench
  begin : Bench → AdapterId → AdapterRequest → Bench × List Signal × AdapterReply
  /-- The second step of a request, after its delay. -/
  finish : Bench → AdapterId → AdapterRequest → Bench × List Signal × AdapterAnswer

namespace AdapterBench

variable {Bench : Type} [AdapterBench Bench]

/-- The first step, and the second one too when there is no delay between them. -/
def ask (bench : Bench) (adapter : AdapterId) (request : AdapterRequest) :
    Bench × List Signal × AdapterReply :=
  match begin bench adapter request with
  | (bench, signals, .later 0) =>
      let (bench, more, answer) := finish bench adapter request
      (bench, signals ++ more, .now answer)
  | asked => asked

instance {Left Right : Type} [AdapterBench Left] [AdapterBench Right] :
    AdapterBench (Left ⊕ Right) where
  create
    | .inl bench, wallet, token => (create bench wallet token).map .inl id
    | .inr bench, wallet, token => (create bench wallet token).map .inr id
  walletOf
    | .inl bench, adapter => walletOf bench adapter
    | .inr bench, adapter => walletOf bench adapter
  isConnected
    | .inl bench, adapter => AdapterBench.isConnected bench adapter
    | .inr bench, adapter => AdapterBench.isConnected bench adapter
  destroy
    | .inl bench, adapter => .inl (destroy bench adapter)
    | .inr bench, adapter => .inr (destroy bench adapter)
  begin
    | .inl bench, adapter, request => (begin bench adapter request).map .inl id
    | .inr bench, adapter, request => (begin bench adapter request).map .inr id
  finish
    | .inl bench, adapter, request => (finish bench adapter request).map .inl id
    | .inr bench, adapter, request => (finish bench adapter request).map .inr id

end AdapterBench

end SignerLink
