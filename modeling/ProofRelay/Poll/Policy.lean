import ProofRelay.Decimal.Text
import ProofRelay.Fault

/-!
# Delay schedules

The delays between the polls of a transaction: a first delay, each next one a factor longer, up
to a cap that is never below the first delay; and the longest wait, if there is one.  The
schedule is stated over any type of numbers, so that it can be reasoned about in exact arithmetic
and run with floating-point numbers.

## Main definitions

* `PollPolicy` : the numbers of a schedule.
* `PollPolicy.nextDelay`, `PollPolicy.delay` : the delays.
* `PollPolicy.expires` : whether a delay would pass the longest wait.
* `PollPolicy.refusal?` : why a schedule is not usable.
-/

namespace ProofRelay

open ProofRelay.Decimal

/-- The numbers of a schedule. -/
structure PollPolicy (α : Type) where
  /-- The first delay, in seconds. -/
  interval : α
  /-- The factor from one delay to the next. -/
  factor : α
  /-- The longest delay. -/
  cap : α
  /-- The longest wait, if there is one. -/
  maxWait : Option α
  deriving Repr

namespace PollPolicy

section Schedule

variable {α : Type} [LT α] [DecidableLT α]

/-- The first of two numbers unless the second is less. -/
def lesser (a b : α) : α :=
  if b < a then b else a

/-- The first of two numbers unless the second is greater. -/
def greater (a b : α) : α :=
  if a < b then b else a

/-- The delay after a delay. -/
def nextDelay [Mul α] (p : PollPolicy α) (delay : α) : α :=
  lesser (delay * p.factor) (greater p.cap p.interval)

/-- The delay after a number of polls, the first one being zero. -/
def delay [Mul α] (p : PollPolicy α) : Nat → α
  | 0 => p.interval
  | n + 1 => p.nextDelay (p.delay n)

/-- Whether a delay after the time waited so far would pass the longest wait. -/
def expires [Add α] (p : PollPolicy α) (elapsed delay : α) : Bool :=
  match p.maxWait with
  | some limit => limit < elapsed + delay
  | none => false

/-- Why a schedule is not usable. -/
inductive Refusal (α : Type) where
  /-- The first delay is not positive. -/
  | interval (value : α)
  /-- The factor is less than one. -/
  | factor (value : α)

/-- Why a schedule is not usable; the first delay is looked at first. -/
def refusal? [LE α] [DecidableLE α] [OfNat α 0] [OfNat α 1] (p : PollPolicy α) :
    Option (Refusal α) :=
  if p.interval ≤ 0 then some (.interval p.interval)
  else if p.factor < 1 then some (.factor p.factor)
  else none

end Schedule

/-- The report of a schedule that is not usable. -/
def Refusal.report : Refusal Float → String
  | .interval x => "poll interval must be greater than 0, got " ++ brief x
  | .factor x => "poll backoff factor must be at least 1, got " ++ brief x

/-- The schedule of ten seconds without growth and without a longest wait. -/
def standard : PollPolicy Float where
  interval := 10
  factor := 1
  cap := 300
  maxWait := none

/-- A schedule, unless it is not usable. -/
def checked (p : PollPolicy Float) : Except Fault (PollPolicy Float) :=
  match p.refusal? with
  | some r => .error (.setting r.report)
  | none => .ok p

end PollPolicy

end ProofRelay
