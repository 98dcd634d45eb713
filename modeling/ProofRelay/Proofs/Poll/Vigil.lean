import ProofRelay.Network.Client
import ProofRelay.Poll.Stop

/-!
# Waits on a given clock

A *vigil* is a wait for the verification of a transaction in which everything from outside is laid
down beforehand: when the clock starts, what the network's tool says to each poll and how long that
takes, and when the caller asks to stop.  Its poller is any poller's code with these effects, so
that a vigil does what `Waiting.run` does; the numbers of the clock and of the schedule may be
exact.

The rounds of a vigil are told without running it: poll `n` begins when poll `n - 1` has ended and
its delay is over, as long as nothing ended the wait before.  The course of a vigil is one of three:
a poll ends it, a request to stop cuts a delay short, or the bound on the polls is reached.

## Main definitions

* `Response`, `Answer` : what the network does with a call, and with a poll.
* `Timeline`, `Timed` : the state of a vigil, and its steps.
* `Vigil`, `Vigil.run` : the vigils, and what becomes of one.
* `Vigil.begins`, `Vigil.ends`, `Vigil.round` : the times and the moments of its polls.
* `Vigil.afterPoll`, `Vigil.polled` : the state after a poll, in any state and in its course.
* `Vigil.ending?` : how a poll ends the wait, if it does.
* `Vigil.Course` : the three courses.

## Main results

* `Vigil.runIn_pollOnce` : what a poll does, in any state.
* `Vigil.run_course` : a vigil takes one of the courses.
-/

namespace ProofRelay

open ProofRelay.Text

/-! ### The network -/

/-- What the network's tool does with a call. -/
structure Response (α : Type) where
  /-- The time that it takes. -/
  time : α
  /-- Whether the request to stop is raised meanwhile. -/
  raisesStop : Bool
  /-- What it says, or why it fails. -/
  said : Except Fault ToolOutput

/-- What the network does with a poll. -/
structure Answer (α : Type) where
  /-- With the call for the tree. -/
  tree : Response α
  /-- With the call for the output under its leaf, if it has one. -/
  output : Response α

namespace Answer

variable {α : Type} (a : Answer α)

/-- The leaf of the tree, if it is told and has one. -/
def leaf? : Option String :=
  a.tree.said.toOption.bind fun said => Label.value? leafLabel said.out

/-- What the poll finds. -/
def outcome : Except Fault PollResult := do
  let said ← a.tree.said
  match Label.value? leafLabel said.out with
  | none => return .noLeaf
  | some leaf => do
    let said ← a.output.said
    return .ofPayload leaf (← Payload.ofOutput said.out)

/-- The calls that are made. -/
def calls (s : Settings) (transaction : String) : List ToolCall :=
  treeCall s transaction :: a.leaf?.toList.map (outputCall s)

/-- The time at the end of the poll that begins at a time. -/
def endFrom [Add α] (time : α) : α :=
  match a.leaf? with
  | none => time + a.tree.time
  | some _ => time + a.tree.time + a.output.time

/-- Whether the request to stop is raised meanwhile. -/
def raisesStop : Bool :=
  a.tree.raisesStop || (a.leaf?.isSome && a.output.raisesStop)

end Answer

/-! ### The clock -/

/-- What is done in a vigil. -/
inductive Moment (α : Type) where
  /-- A call is made. -/
  | called (c : ToolCall)
  /-- Time passes without work. -/
  | slept (time : α)

namespace Moment

variable {α : Type}

/-- The call that is made, if it is one. -/
def call? : Moment α → Option ToolCall
  | called c => some c
  | slept _ => none

/-- The time that passes, if it does so without work. -/
def slept? : Moment α → Option α
  | called _ => none
  | slept time => some time

@[simp] theorem call?_called (c : ToolCall) : (called c : Moment α).call? = some c := rfl

@[simp] theorem call?_slept (time : α) : (slept time).call? = none := rfl

@[simp] theorem slept?_called (c : ToolCall) : (called c : Moment α).slept? = none := rfl

@[simp] theorem slept?_slept (time : α) : (slept time).slept? = some time := rfl

end Moment

/-- The state of a vigil. -/
structure Timeline (α : Type) where
  /-- The time. -/
  clock : α
  /-- The request to stop, if the caller may ask for it. -/
  stop : Option (StopRequest α)
  /-- The count of the trees that were asked for. -/
  trees : Nat
  /-- What was done, in order. -/
  journal : List (Moment α)

namespace Timeline

variable {α : Type}

/-- The calls, in order. -/
def calls (t : Timeline α) : List ToolCall :=
  t.journal.filterMap Moment.call?

/-- The times slept, in order. -/
def slept (t : Timeline α) : List α :=
  t.journal.filterMap Moment.slept?

/-- The state after a call with a response. -/
def afterCall [Add α] (t : Timeline α) (c : ToolCall) (r : Response α) : Timeline α :=
  { t with
    clock := t.clock + r.time
    stop := if r.raisesStop then t.stop.map (·.raise) else t.stop
    journal := t.journal ++ [.called c] }

/-- The state after a delay. -/
def afterPause (t : Timeline α) (p : Pause α) : Timeline α :=
  { t with clock := p.ends, journal := t.journal ++ p.slept.toList.map .slept }

end Timeline

/-- Steps of a vigil. -/
abbrev Timed (α β : Type) := ExceptT Fault (StateM (Timeline α)) β

/-- Whether a call asks for a tree. -/
def ToolCall.asksTree (c : ToolCall) : Bool :=
  match c.arguments with
  | _ :: _ :: .str word :: _ => word = "print-tx-tree"
  | _ => false

namespace Timed

variable {α β γ : Type}

/-- What a step gives in a state, and the state after it. -/
def runIn (a : Timed α β) (t : Timeline α) : Except Fault β × Timeline α :=
  a.run.run t

/-- A value, or the end with a fault. -/
def give (x : Except Fault β) : Timed α β :=
  ExceptT.mk (pure x)

/-- A call: an output belongs to the tree that was asked for last. -/
def call [Add α] (answers : Nat → Answer α) (c : ToolCall) : Timed α ToolOutput := do
  let t ← get
  if c.asksTree then
    let r := (answers t.trees).tree
    set { t.afterCall c r with trees := t.trees + 1 }
    give r.said
  else
    let r := (answers (t.trees - 1)).output
    set (t.afterCall c r)
    give r.said

/-- A delay that a request to stop cuts short; whether it did. -/
def pause [LE α] [DecidableLE α] [Add α] [Sub α] (seconds : α) : Timed α Bool := do
  let t ← get
  let p := Pause.under t.stop t.clock seconds
  set (t.afterPause p)
  return p.cut

theorem runIn_bind (a : Timed α β) (f : β → Timed α γ) (t : Timeline α) :
    (a >>= f).runIn t =
      match a.runIn t with
      | (.ok x, t') => (f x).runIn t'
      | (.error e, t') => (.error e, t') := by
  have unfolded : (a >>= f).runIn t = (ExceptT.bindCont f (a.runIn t).1).run (a.runIn t).2 := rfl
  rw [unfolded]
  rcases a.runIn t with ⟨_ | _, _⟩ <;> rfl

end Timed

/-! ### Vigils -/

/-- A wait in which everything from outside is laid down. -/
structure Vigil (α : Type) where
  /-- The settings, which name the network's tool. -/
  settings : Settings
  /-- The transaction. -/
  transaction : String
  /-- The schedule of the delays. -/
  policy : PollPolicy α
  /-- What the network does with each poll. -/
  answers : Nat → Answer α
  /-- The time at the start. -/
  start : α
  /-- The request to stop, if the caller may ask for it. -/
  stop : Option (StopRequest α)
  /-- The whole seconds of a time, for reports. -/
  seconds : α → Int
  /-- A delay to the nearest second, for reports. -/
  rounded : α → String

namespace Vigil

/-- The same wait of a caller that cannot ask to stop. -/
def plain {α : Type} (v : Vigil α) : Vigil α :=
  { v with stop := none }

section Polls

variable {α : Type} [LT α] [DecidableLT α] [Add α] [Mul α] (v : Vigil α)

/-! ### The polls of a vigil -/

/-- The time at which a poll begins, if the wait comes to it. -/
def begins : Nat → α
  | 0 => v.start
  | n + 1 => (v.answers n).endFrom (begins n) + v.policy.delay n

/-- The time at which a poll ends. -/
def ends (n : Nat) : α :=
  (v.answers n).endFrom (v.begins n)

/-- The request to stop before a poll. -/
def stopBefore {α : Type} (v : Vigil α) : Nat → Option (StopRequest α)
  | 0 => v.stop
  | n + 1 =>
    if (v.answers n).raisesStop then (stopBefore v n).map (·.raise) else stopBefore v n

/-- The calls of a poll. -/
def callsOf {α : Type} (v : Vigil α) (n : Nat) : List (Moment α) :=
  ((v.answers n).calls v.settings v.transaction).map .called

/-- A poll and the whole delay after it. -/
def round (n : Nat) : List (Moment α) :=
  v.callsOf n ++ [.slept (v.policy.delay n)]

/-- The rounds before a poll, in order. -/
def roundsBefore (n : Nat) : List (Moment α) :=
  (List.range n).flatMap v.round

/-- The state before a poll. -/
def before (n : Nat) : Timeline α :=
  ⟨v.begins n, v.stopBefore n, n, v.roundsBefore n⟩

/-- The state after the call for the tree of a poll. -/
def treeAsked (n : Nat) : Timeline α :=
  { (v.before n).afterCall (treeCall v.settings v.transaction) (v.answers n).tree with
    trees := n + 1 }

/-- The state after a poll. -/
def polled (n : Nat) : Timeline α :=
  ⟨v.ends n, v.stopBefore (n + 1), n + 1, v.roundsBefore n ++ v.callsOf n⟩

theorem polled_of_leafless {n : Nat} (h : (v.answers n).leaf? = none) :
    v.polled n = v.treeAsked n := by
  simp [polled, treeAsked, before, Timeline.afterCall, ends, Answer.endFrom, stopBefore,
    Answer.raisesStop, callsOf, Answer.calls, h]

theorem polled_of_leaf {n : Nat} {leaf : String} (h : (v.answers n).leaf? = some leaf) :
    v.polled n = (v.treeAsked n).afterCall (outputCall v.settings leaf) (v.answers n).output := by
  have stop : v.stopBefore (n + 1) =
      ((v.treeAsked n).afterCall (outputCall v.settings leaf) (v.answers n).output).stop := by
    -- A request that is raised twice is raised.
    simp only [stopBefore, Answer.raisesStop, h, treeAsked, before, Timeline.afterCall]
    cases (v.answers n).tree.raisesStop <;> cases (v.answers n).output.raisesStop <;>
      cases v.stopBefore n <;> rfl
  rw [polled, stop]
  simp [treeAsked, before, Timeline.afterCall, ends, Answer.endFrom, callsOf, Answer.calls, h]

omit [Add α] in
theorem roundsBefore_succ (n : Nat) : v.roundsBefore (n + 1) = v.roundsBefore n ++ v.round n := by
  simp [roundsBefore, List.range_succ]

/-! ### The polls of a caller that cannot ask to stop -/

theorem plain_begins (n : Nat) : v.plain.begins n = v.begins n := by
  induction n with
  | zero => rfl
  | succ n ih => rw [begins, ih, begins, plain]

theorem plain_ends (n : Nat) : v.plain.ends n = v.ends n := by
  rw [ends, plain_begins, ends, plain]

theorem plain_stopBefore {α : Type} (v : Vigil α) (n : Nat) : v.plain.stopBefore n = none := by
  induction n with
  | zero => rfl
  | succ n ih =>
    rw [stopBefore, ih]
    exact ite_self none

/-! ### Calls and times of the rounds -/

theorem calls_callsOf {α : Type} (v : Vigil α) (n : Nat) :
    (v.callsOf n).filterMap Moment.call? = (v.answers n).calls v.settings v.transaction := by
  simp [callsOf, List.filterMap_map, Function.comp_def]

theorem slept_callsOf {α : Type} (v : Vigil α) (n : Nat) :
    (v.callsOf n).filterMap Moment.slept? = [] := by
  simp [callsOf]

omit [Add α] in
theorem calls_roundsBefore (n : Nat) :
    (v.roundsBefore n).filterMap Moment.call? =
      (List.range n).flatMap fun i => (v.answers i).calls v.settings v.transaction := by
  induction n with
  | zero => rfl
  | succ n ih =>
    rw [roundsBefore_succ, List.filterMap_append, ih, round, List.filterMap_append, calls_callsOf]
    simp [List.range_succ]

omit [Add α] in
theorem slept_roundsBefore (n : Nat) :
    (v.roundsBefore n).filterMap Moment.slept? = (List.range n).map v.policy.delay := by
  induction n with
  | zero => rfl
  | succ n ih =>
    rw [roundsBefore_succ, List.filterMap_append, ih, round, List.filterMap_append, slept_callsOf]
    simp [List.range_succ]

end Polls

section Run

variable {α : Type} [LE α] [DecidableLE α] [Add α] [Sub α] (v : Vigil α)

/-! ### The wait -/

/-- The poller of a vigil. -/
def poller : Poller (Timed α) α where
  call := Timed.call v.answers
  give := Timed.give
  now := return (← get).clock
  pause := Timed.pause
  inform := fun _ => pure ()
  truncated := fun x => .ok (v.seconds x)
  rounded := v.rounded

/-- What the wait is made of. -/
def waiting : Waiting (Timed α) α :=
  v.poller.waiting v.settings v.transaction

/-! ### Polls in any state -/

/-- The state after the call for a tree in a state. -/
def afterTree (t : Timeline α) : Timeline α :=
  { t.afterCall (treeCall v.settings v.transaction) (v.answers t.trees).tree with
    trees := t.trees + 1 }

/-- The state after a poll in a state. -/
def afterPoll (t : Timeline α) : Timeline α :=
  match (v.answers t.trees).leaf? with
  | none => v.afterTree t
  | some leaf =>
    (v.afterTree t).afterCall (outputCall v.settings leaf) (v.answers t.trees).output

/-- The call for a tree gets the answer to the poll of its number. -/
theorem runIn_treeCall (t : Timeline α) :
    (v.poller.call (treeCall v.settings v.transaction)).runIn t =
      ((v.answers t.trees).tree.said, v.afterTree t) := rfl

/-- The call for an output gets the answer to the poll that is being made. -/
theorem runIn_outputCall (t : Timeline α) (leaf : String) :
    (v.poller.call (outputCall v.settings leaf)).runIn (v.afterTree t) =
      ((v.answers t.trees).output.said,
        (v.afterTree t).afterCall (outputCall v.settings leaf) (v.answers t.trees).output) := rfl

theorem runIn_leaf? (t : Timeline α) :
    (v.poller.leaf? v.settings v.transaction).runIn t =
      ((v.answers t.trees).tree.said.map fun said => Label.value? leafLabel said.out,
        v.afterTree t) := by
  rw [Poller.leaf?, Timed.runIn_bind, runIn_treeCall]
  cases (v.answers t.trees).tree.said <;> rfl

theorem runIn_payload (t : Timeline α) (leaf : String) :
    (v.poller.payload v.settings leaf).runIn (v.afterTree t) =
      ((v.answers t.trees).output.said.bind fun said => Payload.ofOutput said.out,
        (v.afterTree t).afterCall (outputCall v.settings leaf) (v.answers t.trees).output) := by
  rw [Poller.payload, Timed.runIn_bind, runIn_outputCall]
  cases (v.answers t.trees).output.said <;> rfl

/-- What a poll does in any state. -/
theorem runIn_pollOnce (t : Timeline α) :
    (v.poller.pollOnce v.settings v.transaction).runIn t =
      ((v.answers t.trees).outcome, v.afterPoll t) := by
  rw [Poller.pollOnce, Timed.runIn_bind, runIn_leaf?, Answer.outcome, afterPoll, Answer.leaf?]
  cases (v.answers t.trees).tree.said with
  | error f => rfl
  | ok said =>
    simp only [Except.map, bind, Except.bind, Except.toOption, Option.bind]
    cases Label.value? leafLabel said.out with
    | none => rfl
    | some leaf =>
      change (v.poller.payload v.settings leaf >>= _).runIn _ = _
      rw [Timed.runIn_bind, runIn_payload]
      cases (v.answers t.trees).output.said with
      | error f => rfl
      | ok said' =>
        simp only [Except.bind]
        cases Payload.ofOutput said'.out <;> rfl

/-! ### The course of a vigil -/

variable [LT α] [DecidableLT α] [Mul α]

/-- What becomes of a vigil, with a bound on its polls: what the wait gives, and the state after
it. -/
def run (bound : Nat) : Except Fault (Option PollResult) × Timeline α :=
  (v.waiting.run v.policy bound).runIn ⟨v.start, v.stop, 0, []⟩

omit [LE α] [DecidableLE α] [Sub α] in
/-- In the course of a vigil, a poll leaves the state that is told without running it. -/
theorem afterPoll_before (n : Nat) : v.afterPoll (v.before n) = v.polled n := by
  have same : (v.answers (v.before n).trees).leaf? = (v.answers n).leaf? := rfl
  rw [afterPoll, same]
  cases leaf : (v.answers n).leaf? with
  | none => exact (polled_of_leafless v leaf).symm
  | some leaf' => exact (polled_of_leaf v leaf).symm

/-! ### The courses -/

/-- Whether there is a request to stop when a poll begins. -/
def dueBefore (n : Nat) : Bool :=
  (v.stopBefore n).any (·.isDue (v.begins n))

/-- The delay after a poll. -/
def pauseAfter (n : Nat) : Pause α :=
  Pause.under (v.stopBefore (n + 1)) (v.ends n) (v.policy.delay n)

/-- How a poll ends the wait, if it does: with its fault, with its final result, or, when it is
pending and the time waited with the next delay passes the longest wait, with the fault of that. -/
def ending? (n : Nat) : Option (Except Fault PollResult) :=
  match (v.answers n).outcome with
  | .error f => some (.error f)
  | .ok result =>
    if result.verdict = .pending then
      if v.policy.expires (v.ends n - v.start) (v.policy.delay n) then
        some (.error (timeoutFault v.transaction (toString (v.seconds (v.ends n - v.start)))
          (n + 1)))
      else none
    else some (.ok result)

omit [LE α] [DecidableLE α] in
/-- The request to stop has no part in how a poll ends the wait. -/
theorem plain_ending? (n : Nat) : v.plain.ending? n = v.ending? n := by
  rw [ending?, ending?, plain_ends, plain]

/-- Nobody cuts a delay short. -/
theorem plain_pauseAfter_cut (n : Nat) : (v.plain.pauseAfter n).cut = false := by
  rw [pauseAfter, plain_stopBefore, Pause.under_none]

/-- Whether a poll is followed by another one. -/
def GoesOn (n : Nat) : Prop :=
  v.ending? n = none ∧ (v.pauseAfter n).cut = false

/-- The courses of a vigil with a bound on its polls. -/
inductive Course (bound : Nat) : Except Fault (Option PollResult) → Timeline α → Prop
  /-- A poll ends it. -/
  | ended {n e} (within : n < bound) (earlier : ∀ i < n, v.GoesOn i) (last : v.ending? n = some e) :
      Course bound (e.map some) (v.polled n)
  /-- A request to stop cuts the delay after a poll short. -/
  | cut {n} (within : n < bound) (earlier : ∀ i < n, v.GoesOn i) (last : v.ending? n = none)
      (cut : (v.pauseAfter n).cut = true) :
      Course bound (.error (cancelledFault v.transaction))
        ((v.polled n).afterPause (v.pauseAfter n))
  /-- The bound is reached. -/
  | bounded (all : ∀ i < bound, v.GoesOn i) : Course bound (.ok none) (v.before bound)

/-- The state after a delay that was not cut short is the one before the next poll. -/
theorem afterPause_of_not_cut {n : Nat} (h : (v.pauseAfter n).cut = false) :
    (v.polled n).afterPause (v.pauseAfter n) = v.before (n + 1) := by
  rw [pauseAfter] at h ⊢
  rw [Pause.under_of_not_cut h, before, roundsBefore_succ]
  simp [Timeline.afterPause, polled, round, begins, ends]

/-- The wait from a poll on: it ends there, it is stopped in the delay, or it goes on. -/
theorem runIn_runFrom_succ (polls n : Nat) :
    (v.waiting.runFrom v.policy v.start (polls + 1) n (v.policy.delay n)).runIn (v.before n) =
      match v.ending? n with
      | some e => (e.map some, v.polled n)
      | none =>
        if (v.pauseAfter n).cut then
          (.error (cancelledFault v.transaction), (v.polled n).afterPause (v.pauseAfter n))
        else
          (v.waiting.runFrom v.policy v.start polls (n + 1) (v.policy.delay (n + 1))).runIn
            (v.before (n + 1)) := by
  have poll : v.waiting.poll.runIn (v.before n) = ((v.answers n).outcome, v.polled n) := by
    rw [← afterPoll_before]
    exact v.runIn_pollOnce (v.before n)
  have time : v.waiting.now.runIn (v.polled n) = (.ok (v.ends n), v.polled n) := rfl
  rw [Waiting.runFrom, Timed.runIn_bind, poll, ending?]
  cases (v.answers n).outcome with
  | error f => rfl
  | ok result =>
    simp only
    rw [Timed.runIn_bind, time]
    simp only
    by_cases pending : result.verdict = .pending
    · rw [if_pos pending, if_neg (by simp [pending, Verdict.isFinal])]
      by_cases expired : v.policy.expires (v.ends n - v.start) (v.policy.delay n) = true
      · rw [if_pos expired, if_pos expired]
        rfl
      · have noted : ∀ k e d t, (v.waiting.pending k e d).runIn t = (.ok (), t) :=
          fun _ _ _ _ => rfl
        have paused : (v.waiting.pause (v.policy.delay n)).runIn (v.polled n) =
            (.ok (v.pauseAfter n).cut, (v.polled n).afterPause (v.pauseAfter n)) := rfl
        rw [if_neg expired, if_neg expired, Timed.runIn_bind, noted]
        simp only
        rw [Timed.runIn_bind, paused]
        simp only
        cases cut : (v.pauseAfter n).cut with
        | true => rfl
        | false =>
          rw [afterPause_of_not_cut v cut]
          rfl
    · rw [if_neg pending, if_pos (by simpa [Verdict.isFinal] using pending)]
      rfl

/-- From any poll on, a wait whose polls before all went on takes one of the courses. -/
theorem runFrom_course {bound : Nat} (polls n : Nat) (counted : n + polls = bound)
    (earlier : ∀ i < n, v.GoesOn i) :
    v.Course bound
      ((v.waiting.runFrom v.policy v.start polls n (v.policy.delay n)).runIn (v.before n)).1
      ((v.waiting.runFrom v.policy v.start polls n (v.policy.delay n)).runIn (v.before n)).2 := by
  induction polls generalizing n with
  | zero =>
    obtain rfl : n = bound := counted
    exact .bounded earlier
  | succ polls ih =>
    rw [runIn_runFrom_succ]
    cases ending : v.ending? n with
    | some e => exact .ended (by omega) earlier ending
    | none =>
      cases cut : (v.pauseAfter n).cut with
      | true => exact .cut (by omega) earlier ending cut
      | false =>
        have onward : ∀ i < n + 1, v.GoesOn i := by
          intro i within
          rcases Nat.lt_succ_iff_lt_or_eq.mp within with before | rfl
          · exact earlier i before
          · exact ⟨ending, cut⟩
        exact ih (n + 1) (by omega) onward

/-- A vigil is its wait from the first poll on. -/
theorem run_eq (bound : Nat) :
    v.run bound =
      (v.waiting.runFrom v.policy v.start bound 0 (v.policy.delay 0)).runIn (v.before 0) := by
  have time : v.waiting.now.runIn (v.before 0) = (.ok v.start, v.before 0) := rfl
  have opening : (⟨v.start, v.stop, 0, []⟩ : Timeline α) = v.before 0 := rfl
  rw [run, opening, Waiting.run, Timed.runIn_bind, time]
  simp only [PollPolicy.delay]

/-- A vigil takes one of the courses. -/
theorem run_course (bound : Nat) : v.Course bound (v.run bound).1 (v.run bound).2 := by
  rw [run_eq]
  exact v.runFrom_course bound 0 (Nat.zero_add bound) fun _ none => absurd none (Nat.not_lt_zero _)

end Run

end Vigil

end ProofRelay
