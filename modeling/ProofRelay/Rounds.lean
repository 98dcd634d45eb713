import ProofRelay.Chain.Head

/-!
# Rounds of jobs

Block numbers are handed to a job one at a time: one given block, the latest block, or all
blocks from a given one on.  Before each job the rounds end when the caller asked to stop or
enough blocks are done.  A malformed verification ends them too, unless they are told to go on.

## Main definitions

* `RunMode` : which blocks are taken.
* `Rounds` : what the rounds are made of.
* `Rounds.run` : the rounds.
* `Tally` : the blocks that were done.
-/

namespace ProofRelay

/-- Which blocks are taken. -/
inductive RunMode where
  /-- A given block. -/
  | fixed
  /-- The latest block. -/
  | latest
  /-- All blocks from a given one on. -/
  | follow
  deriving DecidableEq, Repr

namespace RunMode

/-- All modes, in the order in which they are offered. -/
def all : List RunMode := [fixed, latest, follow]

/-- The word for a mode. -/
def name : RunMode → String
  | fixed => "fixed"
  | latest => "latest"
  | follow => "follow"

/-- The mode of a word. -/
def ofName? (s : String) : Option RunMode :=
  all.find? fun m => m.name = s

end RunMode

/-- The blocks that were done, in order. -/
structure Tally where
  /-- The verified ones. -/
  verified : List Int
  /-- The ones with a malformed verification. -/
  malformed : List Int
  deriving DecidableEq, Repr

namespace Tally

/-- No block yet. -/
def empty : Tally := ⟨[], []⟩

/-- The count of blocks. -/
def processed (t : Tally) : Nat :=
  t.verified.length + t.malformed.length

/-- One more verified block. -/
def addVerified (t : Tally) (n : Int) : Tally :=
  { t with verified := t.verified ++ [n] }

/-- One more block with a malformed verification. -/
def addMalformed (t : Tally) (n : Int) : Tally :=
  { t with malformed := t.malformed ++ [n] }

end Tally

/-- What the rounds are made of. -/
structure Rounds where
  /-- Which blocks are taken. -/
  mode : RunMode
  /-- The given block. -/
  start : Option Int
  /-- The connection to the chain. -/
  chain : Option ChainClient
  /-- Whether a malformed verification ends the rounds. -/
  haltOnMalformed : Bool
  /-- The number of blocks after which the rounds end. -/
  limit : Option Int

namespace Rounds

/-- The first block. -/
def first (r : Rounds) : Activity Int :=
  match r.mode with
  | .latest =>
    match r.chain with
    | none => Activity.fail (.setting "latest mode needs a chain RPC endpoint")
    | some c => c.head
  | m =>
    match r.start with
    | none => Activity.fail (.setting (m.name ++ " mode needs a starting block number"))
    | some n => return n

/-- Whether enough blocks are done. -/
def isFull (r : Rounds) (t : Tally) : Bool :=
  match r.limit with
  | none => false
  | some n => n ≤ t.processed

/-- The longest part of a malformed payload that is logged. -/
def shownLength : Nat := 200

/-- One job: the blocks that are done after it. -/
def step (r : Rounds) (job : Int → Activity Unit) (t : Tally) (n : Int) : Activity Tally :=
  tryCatch (do job n; return t.addVerified n) fun
    | .fault (.stage f) =>
      match f.cause with
      | .malformed payload .. =>
        if r.haltOnMalformed then throw (.fault (.stage f))
        else do
          logWarning "run_loop" ("block " ++ toString n ++
            ": malformed verification, continuing: " ++
            String.ofList (payload.toList.take shownLength))
          return t.addMalformed n
      | _ => throw (.fault (.stage f))
    | i => throw i

/-- The rounds from a block on, with a bound on their number. -/
def runFrom (r : Rounds) (job : Int → Activity Unit) : Nat → Tally → Int → Activity Tally
  | 0, _, _ => Activity.endless
  | rounds + 1, t, n => do
    if ← stopRequested then
      logInfo "run_loop" ("stop requested before block " ++ toString n)
      return t
    else if r.isFull t then
      return t
    else
      let t ← r.step job t n
      match r.mode with
      | .follow => runFrom r job rounds t (n + 1)
      | _ => return t

/-- The rounds, with a bound on their number. -/
def run (r : Rounds) (job : Int → Activity Unit) (rounds : Nat) : Activity Tally := do
  runFrom r job rounds .empty (← r.first)

end Rounds

end ProofRelay
