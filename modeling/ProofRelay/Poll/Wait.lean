import ProofRelay.Poll.Policy
import ProofRelay.Poll.Verdict

/-!
# Waiting for a verification

A transaction is polled until its verdict is final.  After a pending poll the wait ends when the
next delay would pass the longest wait, or when the caller asks to stop during the delay;
otherwise it polls again.

What a poll, the clock and a delay do is given from outside, in any monad and over any numbers.

## Main definitions

* `PollResult` : what a poll finds.
* `Waiting` : what a wait is made of.
* `Waiting.run` : the wait.
-/

namespace ProofRelay

/-- What a poll finds. -/
structure PollResult where
  /-- The verdict. -/
  verdict : Verdict
  /-- The payload, empty while there is none. -/
  payload : String
  /-- The leaf of the transaction's tree. -/
  leaf : Option String
  deriving DecidableEq, Repr

/-- What a poll finds before the transaction has a leaf. -/
def PollResult.noLeaf : PollResult :=
  ⟨.pending, "", none⟩

/-- What a poll finds under a leaf. -/
def PollResult.ofPayload (leaf payload : String) : PollResult :=
  ⟨.ofPayload payload, payload, some leaf⟩

/-- What a wait is made of. -/
structure Waiting (m : Type → Type) (α : Type) where
  /-- One poll. -/
  poll : m PollResult
  /-- The time. -/
  now : m α
  /-- A delay; whether the caller asked to stop during it. -/
  pause : α → m Bool
  /-- Takes note of a final result, with the count of polls and the time waited. -/
  settled : PollResult → Nat → α → m Unit
  /-- Takes note of a pending poll, with the count of polls, the time waited and the delay. -/
  pending : Nat → α → α → m Unit
  /-- Gives up, with the count of polls and the time waited. -/
  expired : Nat → α → m PollResult
  /-- Stops at the caller's request. -/
  stopped : m PollResult

namespace Waiting

variable {m : Type → Type} {α : Type} [Monad m] [LT α] [DecidableLT α] [Add α] [Sub α] [Mul α]

/-- The wait from a poll on, where `attempt` polls were made before and the next delay is
`delay`, with a bound on the polls; nothing when it is reached. -/
def runFrom (w : Waiting m α) (policy : PollPolicy α) (start : α) :
    Nat → Nat → α → m (Option PollResult)
  | 0, _, _ => pure none
  | polls + 1, attempt, delay => do
    let result ← w.poll
    let elapsed := (← w.now) - start
    if result.verdict.isFinal then
      w.settled result (attempt + 1) elapsed
      return some result
    else if policy.expires elapsed delay then
      return some (← w.expired (attempt + 1) elapsed)
    else
      w.pending (attempt + 1) elapsed delay
      if ← w.pause delay then
        return some (← w.stopped)
      else
        runFrom w policy start polls (attempt + 1) (policy.nextDelay delay)

/-- The wait, with a bound on the polls; nothing when it is reached. -/
def run (w : Waiting m α) (policy : PollPolicy α) (polls : Nat) : m (Option PollResult) := do
  let start ← w.now
  runFrom w policy start polls 0 policy.interval

end Waiting

end ProofRelay
