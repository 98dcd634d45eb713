import ProofRelay.Json.Number
import ProofRelay.Network.Payload
import ProofRelay.Plan.Basic
import ProofRelay.Poll.Wait
import ProofRelay.Text.Label
import ProofRelay.Witness.Capture

/-!
# The execution network

The network is reached through its tool.  A plan is submitted and gives a transaction; the
transaction grows a tree, and the output of the tree's leaf holds the verification.

What a poll does is said for any poller, which is given the tool, a clock and a way to spend a delay
from outside; the one of a run has those of the world.

## Main definitions

* `submitCall`, `treeCall`, `outputCall` : the calls of the network's tool.
* `submitPlan` : the transaction of a submitted plan.
* `Poller` : what polls are made with.
* `Poller.leaf?`, `Poller.payload` : the leaf of a transaction's tree, and the payload under a leaf.
* `Poller.pollOnce`, `Poller.waiting` : one poll, and what a wait is made of.
* `resolveLeaf`, `requireLeaf`, `fetchPayload`, `pollOnce`, `waitForVerdict` : the same in the
  world.
-/

namespace ProofRelay

open ProofRelay.Text ProofRelay.Decimal Activity

/-- The label of a transaction in the tool's output. -/
def transactionLabel : String := "Tx hash:"

/-- The label of a leaf in the tool's output. -/
def leafLabel : String := "Leaf: "

/-- The variables that a submission adds to the tool's environment. -/
def submitEnvironment (s : Settings) : Option Json.Fields :=
  s.networkLogFilter.given?.map fun filter => [("RUST_LOG", filter)]

/-- The call that submits a plan. -/
def submitCall (s : Settings) (p : Plan Json) : ToolCall :=
  networkCall s ["exec", "--tasks", p.document] (submitEnvironment s)

/-- The call for the tree of a transaction. -/
def treeCall (s : Settings) (transaction : String) : ToolCall :=
  networkCall s ["print-tx-tree", "--hash", transaction] none

/-- The call for the output under a leaf. -/
def outputCall (s : Settings) (leaf : String) : ToolCall :=
  networkCall s ["get-tx-execution-output", "--hash", leaf] none

/-- The transaction of a submitted plan. -/
def submitPlan (s : Settings) (p : Plan Json) : Activity String := do
  logDebug "network" ("task plan: " ++ p.document)
  let said ← runTool (submitCall s p)
  match Label.value? transactionLabel said.out with
  | none =>
    fail (.stage (.withOutput .submission "no transaction hash in exec output"
      (said.out ++ said.err)))
  | some transaction =>
    logInfo "network" ("submitted task plan, tx " ++ transaction)
    return transaction

/-! ### Pollers -/

/-- The fault of a wait without a verification in time. -/
def timeoutFault (transaction seconds : String) (polls : Nat) : Fault :=
  let message := "no verification for tx " ++ transaction ++ " after " ++ seconds ++ "s (" ++
    toString polls ++ " polls)"
  .stage { StageFault.of .timeout message with stage := some "poll" }

/-- The fault of a wait that was stopped. -/
def cancelledFault (transaction : String) : Fault :=
  .stage { StageFault.of .cancelled ("polling of tx " ++ transaction ++ " cancelled")
    with stage := some "poll" }

/-- What polls are made with, over any numbers and with effects of any kind. -/
structure Poller (m : Type → Type) (α : Type) where
  /-- A call of a tool that has to succeed. -/
  call : ToolCall → m ToolOutput
  /-- A value, or the end with a fault. -/
  give : {β : Type} → Except Fault β → m β
  /-- The time. -/
  now : m α
  /-- A delay; whether a request to stop cut it short. -/
  pause : α → m Bool
  /-- A log line. -/
  inform : String → m Unit
  /-- The whole seconds of a time. -/
  truncated : α → Except Fault Int
  /-- A delay to the nearest second, in digits. -/
  rounded : α → String

namespace Poller

variable {m : Type → Type} {α : Type} [Monad m] (p : Poller m α) (s : Settings)

/-- The leaf of a transaction's tree, if it has one. -/
def leaf? (transaction : String) : m (Option String) := do
  let said ← p.call (treeCall s transaction)
  return Label.value? leafLabel said.out

/-- The payload under a leaf. -/
def payload (leaf : String) : m String := do
  let said ← p.call (outputCall s leaf)
  p.give (Payload.ofOutput said.out)

/-- One poll of a transaction. -/
def pollOnce (transaction : String) : m PollResult := do
  match ← p.leaf? s transaction with
  | none => return .noLeaf
  | some leaf => return .ofPayload leaf (← p.payload s leaf)

/-- The whole seconds of a time, in digits. -/
def wholeSeconds (x : α) : m String := do
  return toString (← p.give (p.truncated x))

/-- What a wait for the verification of a transaction is made of. -/
def waiting (transaction : String) : Waiting m α where
  poll := p.pollOnce s transaction
  now := p.now
  pause := p.pause
  settled := fun result polls elapsed => do
    p.inform ("tx " ++ transaction ++ " reached " ++ result.verdict.name ++ " after " ++
      toString polls ++ " polls (" ++ (← p.wholeSeconds elapsed) ++ "s)")
  pending := fun polls elapsed delay => do
    p.inform ("tx " ++ transaction ++ " pending (poll " ++ toString polls ++ ", " ++
      (← p.wholeSeconds elapsed) ++ "s elapsed), retrying in " ++ p.rounded delay ++ "s")
  expired := fun polls elapsed => do
    let seconds ← p.wholeSeconds elapsed
    p.give (.error (timeoutFault transaction seconds polls))
  stopped := p.give (.error (cancelledFault transaction))

end Poller

/-! ### Polling in the world -/

/-- The poller of a run. -/
def poller : Poller Activity Float where
  call := runTool
  give := ofExcept
  now := now
  pause := pause
  inform := logInfo "poller"
  truncated := fun x => (Json.float x).toInt
  rounded := whole

/-- The leaf of a transaction's tree, if it has one. -/
def resolveLeaf (s : Settings) (transaction : String) : Activity (Option String) :=
  poller.leaf? s transaction

/-- The leaf of a transaction's tree, which has to be there. -/
def requireLeaf (s : Settings) (transaction : String) : Activity String := do
  match ← resolveLeaf s transaction with
  | some leaf => return leaf
  | none =>
    fail (.stage (.of .noLeaf ("transaction tree for " ++ transaction ++ " has no leaf yet")))

/-- The payload under a leaf. -/
def fetchPayload (s : Settings) (leaf : String) : Activity String :=
  poller.payload s leaf

/-- One poll of a transaction. -/
def pollOnce (s : Settings) (transaction : String) : Activity PollResult :=
  poller.pollOnce s transaction

/-- The whole seconds of a time, in digits. -/
def wholeSeconds (x : Float) : Activity String :=
  poller.wholeSeconds x

/-- What a wait for the verification of a transaction is made of. -/
def verificationWait (s : Settings) (transaction : String) : Waiting Activity Float :=
  poller.waiting s transaction

/-- Polls of a transaction until the verdict is final, with a bound on their number. -/
def waitForVerdict (s : Settings) (transaction : String) (bound : Nat) :
    Activity PollResult := do
  match ← (verificationWait s transaction).run s.poll bound with
  | some result => return result
  | none => endless

end ProofRelay
