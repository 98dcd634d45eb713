import ProofRelay.Json.Number
import ProofRelay.World.Activity

/-!
# The head of the chain

The number of the latest block, as the chain's service reports it.

## Main definitions

* `ChainClient` : a connection to the service.
* `ChainClient.connect` : a connection to a service at an address.
* `ChainClient.head` : the number of the latest block.
-/

namespace ProofRelay

/-- A connection to the chain's service. -/
structure ChainClient where
  /-- The address of the service. -/
  url : Json
  deriving DecidableEq, Repr

namespace ChainClient

/-- The time, in seconds, after which the service is given up. -/
def standardTimeout : Float := 30

/-- A connection to a service at an address, which has to be set. -/
def connect (url : Json) (timeout : Float) : Activity ChainClient :=
  match url.given? with
  | none => Activity.fail (.setting "chain.rpc_url is not configured (KATLA_ENDPOINT)")
  | some address => do
    note (.provider address timeout)
    return ⟨address⟩

/-- The fault of a service that did not report a number. -/
def unreadable (c : ChainClient) (reason : String) : Fault :=
  let message := "eth_blockNumber failed against " ++ c.url.shown ++ ": " ++ reason
  .stage { StageFault.of .chain message with stage := some "chain" }

/-- The number in an answer of the service. -/
def number (c : ChainClient) : HeadReply → Except Fault Int
  | .refused reason => .error (c.unreadable reason)
  | .broken f => .error f
  | .value v =>
    match v.toInt with
    | .error (.defect .value reason) => .error (c.unreadable reason)
    | r => r

/-- The number of the latest block. -/
def head (c : ChainClient) : Activity Int := do
  let n ← Activity.ofExcept (c.number (← askHead))
  logInfo "chain" ("chain head is block " ++ toString n)
  return n

end ChainClient

end ProofRelay
