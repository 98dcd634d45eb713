import Mathlib.Algebra.Order.Field.Basic
import Mathlib.Algebra.Order.Floor.Ring
import Mathlib.Algebra.Order.BigOperators.Group.List
import Mathlib.Data.List.Induction
import Mathlib.Data.Rat.Floor
import ProofRelay.Proofs.Poll.Cancellation

/-!
# Waits with a longest time

A wait with a longest time ends.  Before each delay it makes sure that the delay ends in time, no
delay is shorter than the interval, and calls take no negative time; so a wait that has gone on
after `n` polls is at least `n` intervals old, and no older than its longest time.  A request to
stop can only make a delay shorter, after which there is no other poll.

When a delay ends is not written down in the journal of a wait.  It follows from the journal, in
which every poll is known by its call for the tree: the time after a journal is the start, later by
all times slept and by what the network took for the calls.

## Main definitions

* `Vigil.endOf`, `Vigil.StopsAt` : the poll after which a wait does not go on, and what it comes to.
* `Vigil.timeAfter` : the time after a journal.
* `Vigil.EndsInTime` : what a wait with a longest time comes to.

## Main results

* `Vigil.run_of_stopsAt` : a wait comes to the same under every bound that allows for its end.
* `Vigil.run_endsInTime` : a wait with a longest time ends in time.
-/

namespace ProofRelay

/-- A delay ends when the time slept in it is over. -/
theorem Pause.ends_eq {α : Type} [Ring α] [LinearOrder α]
    (stop : Option (StopRequest α)) (time seconds : α) :
    (Pause.under stop time seconds).ends =
      time + (Pause.under stop time seconds).slept.getD 0 := by
  rw [Pause.under]
  split
  · simp
  · split
    · rfl
    · split <;> simp

namespace Vigil

/-! ### The end of a wait -/

section Ends

variable {α : Type} [Ring α] [LinearOrder α] (v : Vigil α)

/-- The first poll after which a wait does not go on. -/
structure StopsAt (n : Nat) : Prop where
  /-- The wait goes on after each poll before. -/
  earlier : ∀ i < n, v.GoesOn i
  /-- It does not go on after this one. -/
  stops : ¬ v.GoesOn n

/-- What a wait comes to that does not go on after a poll. -/
def endOf (n : Nat) : Except Fault (Option PollResult) × Timeline α :=
  match v.ending? n with
  | some e => (e.map some, v.polled n)
  | none => (.error (cancelledFault v.transaction), (v.polled n).afterPause (v.pauseAfter n))

variable {v}

/-- There is one first poll after which a wait does not go on. -/
theorem StopsAt.unique {m n : Nat} (hm : v.StopsAt m) (hn : v.StopsAt n) : m = n := by
  rcases Nat.lt_trichotomy m n with before | same | after
  · exact absurd (hn.earlier m before) hm.stops
  · exact same
  · exact absurd (hm.earlier n after) hn.stops

/-- A wait comes to the same under every bound that allows for its end. -/
theorem run_of_stopsAt {bound n : Nat} (within : n < bound) (stop : v.StopsAt n) :
    v.run bound = v.endOf n := by
  have course : v.Course bound (v.run bound).1 (v.run bound).2 := v.run_course bound
  generalize v.run bound = came at course
  obtain ⟨result, t⟩ := came
  cases course with
  | @ended m e _ earlier last =>
    have stop' : v.StopsAt m := ⟨earlier, fun goesOn => by simp [goesOn.1] at last⟩
    obtain rfl : m = n := stop'.unique stop
    rw [endOf, last]
    rfl
  | @cut m _ earlier last cut =>
    have stop' : v.StopsAt m := ⟨earlier, fun goesOn => by simp [goesOn.2] at cut⟩
    obtain rfl : m = n := stop'.unique stop
    rw [endOf, last]
    rfl
  | bounded all => exact absurd (all n within) stop.stops

/-- A wait whose polls do not all go on stops at the first of them. -/
theorem exists_stopsAt {n : Nat} (stops : ¬ v.GoesOn n) : ∃ m ≤ n, v.StopsAt m := by
  classical
  have some : ∃ m, ¬ v.GoesOn m := ⟨n, stops⟩
  refine ⟨Nat.find some, Nat.find_min' some stops, ?_, Nat.find_spec some⟩
  exact fun i before => not_not.mp (Nat.find_min some before)

theorem endOf_ne_ok_none (n : Nat) : (v.endOf n).1 ≠ .ok none := by
  rw [endOf]
  cases v.ending? n with
  | none => nofun
  | some e => cases e <;> nofun

theorem trees_endOf (n : Nat) : (v.endOf n).2.trees = n + 1 := by
  rw [endOf]
  cases v.ending? n <;> rfl

end Ends

/-! ### The time after a journal -/

section Times

variable {α : Type} [Ring α] [LinearOrder α] (v : Vigil α)

/-- The time after one more moment, with the count of the trees that were asked for. -/
def tick (time : α × Nat) : Moment α → α × Nat
  | .called c =>
    if c.asksTree then (time.1 + (v.answers time.2).tree.time, time.2 + 1)
    else (time.1 + (v.answers (time.2 - 1)).output.time, time.2)
  | .slept seconds => (time.1 + seconds, time.2)

/-- The time after a journal. -/
def timeAfter (journal : List (Moment α)) : α :=
  (journal.foldl v.tick (v.start, 0)).1

omit [LinearOrder α] in
theorem timeAfter_concat_slept (journal : List (Moment α)) (seconds : α) :
    v.timeAfter (journal ++ [.slept seconds]) = v.timeAfter journal + seconds := by
  simp [timeAfter, tick]

/-- The calls of a poll take the time from its begin to its end. -/
theorem foldl_tick_callsOf (n : Nat) :
    (v.callsOf n).foldl v.tick (v.begins n, n) = (v.ends n, n + 1) := by
  have tree : ∀ time : α, v.tick (time, n) (.called (treeCall v.settings v.transaction)) =
      (time + (v.answers n).tree.time, n + 1) := fun _ => rfl
  have output : ∀ (time : α) (leaf : String),
      v.tick (time, n + 1) (.called (outputCall v.settings leaf)) =
        (time + (v.answers n).output.time, n + 1) := fun _ _ => rfl
  rw [callsOf, Answer.calls, ends, Answer.endFrom]
  cases (v.answers n).leaf? with
  | none => simp [tree]
  | some leaf => simp [tree, output]

theorem foldl_tick_roundsBefore (n : Nat) :
    (v.roundsBefore n).foldl v.tick (v.start, 0) = (v.begins n, n) := by
  induction n with
  | zero => rfl
  | succ n ih =>
    rw [roundsBefore_succ, round, List.foldl_append, ih, List.foldl_append, foldl_tick_callsOf]
    rfl

theorem timeAfter_polled (n : Nat) :
    v.timeAfter (v.roundsBefore n ++ v.callsOf n) = v.ends n := by
  rw [timeAfter, List.foldl_append, foldl_tick_roundsBefore, foldl_tick_callsOf]

/-- The time after the journal of a wait is the time on its clock. -/
theorem timeAfter_endOf (n : Nat) : v.timeAfter (v.endOf n).2.journal = (v.endOf n).2.clock := by
  rw [endOf]
  cases v.ending? n with
  | some e => exact v.timeAfter_polled n
  | none =>
    show v.timeAfter (v.roundsBefore n ++ v.callsOf n ++
      (v.pauseAfter n).slept.toList.map .slept) = (v.pauseAfter n).ends
    have ends : (v.pauseAfter n).ends = v.ends n + (v.pauseAfter n).slept.getD 0 :=
      Pause.ends_eq _ _ _
    rw [ends]
    cases (v.pauseAfter n).slept with
    | none => simpa using v.timeAfter_polled n
    | some seconds =>
      show v.timeAfter (v.roundsBefore n ++ v.callsOf n ++ [.slept seconds]) = v.ends n + seconds
      rw [timeAfter_concat_slept, timeAfter_polled]

end Times

/-! ### Delays that end in time -/

section InTime

variable {α : Type} [Ring α] [LinearOrder α] [IsStrictOrderedRing α] (v : Vigil α) (limit : α)

/-- No delay of a journal ends later than a longest time after the start. -/
def InTime (journal : List (Moment α)) : Prop :=
  ∀ before seconds, before ++ [.slept seconds] <+: journal →
    v.timeAfter (before ++ [.slept seconds]) ≤ v.start + limit

variable {v limit} {journal : List (Moment α)}

omit [IsStrictOrderedRing α] in
theorem inTime_nil : v.InTime limit [] := by
  intro before seconds inside
  simp at inside

omit [IsStrictOrderedRing α] in
theorem InTime.concat_called (h : v.InTime limit journal) (c : ToolCall) :
    v.InTime limit (journal ++ [.called c]) := by
  intro before seconds inside
  rcases List.prefix_concat_iff.mp inside with whole | inside
  · simp at whole
  · exact h before seconds inside

omit [IsStrictOrderedRing α] in
theorem InTime.append_called (h : v.InTime limit journal) (calls : List ToolCall) :
    v.InTime limit (journal ++ calls.map .called) := by
  induction calls generalizing journal with
  | nil => simpa using h
  | cons c calls ih => simpa using ih (h.concat_called c)

omit [IsStrictOrderedRing α] in
theorem InTime.concat_slept (h : v.InTime limit journal) {seconds : α}
    (last : v.timeAfter journal + seconds ≤ v.start + limit) :
    v.InTime limit (journal ++ [.slept seconds]) := by
  intro before seconds' inside
  rcases List.prefix_concat_iff.mp inside with whole | inside
  · rw [whole, timeAfter_concat_slept]
    exact last
  · exact h before seconds' inside

omit [IsStrictOrderedRing α] in
theorem InTime.of_concat {m : Moment α} (h : v.InTime limit (journal ++ [m])) :
    v.InTime limit journal :=
  fun before seconds inside => h before seconds (inside.trans (List.prefix_append _ _))

omit [LinearOrder α] [Ring α] [IsStrictOrderedRing α] in
theorem slept?_concat_called (journal : List (Moment α)) (c : ToolCall) :
    (journal ++ [Moment.called c]).filterMap Moment.slept? = journal.filterMap Moment.slept? := by
  simp [List.filterMap_cons]

/-- No time is slept before the start. -/
theorem start_add_sum_le_timeAfter (times : v.TakesTime) (journal : List (Moment α)) :
    v.start + (journal.filterMap Moment.slept?).sum ≤ v.timeAfter journal := by
  induction journal using List.reverseRecOn with
  | nil => simp [timeAfter]
  | append_singleton journal m ih =>
    cases m with
    | slept seconds =>
      rw [timeAfter_concat_slept, List.filterMap_append, List.sum_append, ← add_assoc]
      simpa using add_le_add_left ih seconds
    | called c =>
      have later : v.timeAfter journal ≤ v.timeAfter (journal ++ [.called c]) := by
        simp only [timeAfter, List.foldl_append, List.foldl_cons, List.foldl_nil, tick]
        split
        · exact le_add_of_nonneg_right (times _).1
        · exact le_add_of_nonneg_right (times _).2
      rw [slept?_concat_called]
      exact ih.trans later

/-- All delays that end in time last no longer than the longest time. -/
theorem InTime.sum_le (h : v.InTime limit journal) (times : v.TakesTime) :
    (journal.filterMap Moment.slept?).sum ≤ max limit 0 := by
  induction journal using List.reverseRecOn with
  | nil => simp
  | append_singleton journal m ih =>
    cases m with
    | called c =>
      rw [slept?_concat_called]
      exact ih h.of_concat
    | slept seconds =>
      have last : v.timeAfter (journal ++ [.slept seconds]) ≤ v.start + limit :=
        h journal seconds List.prefix_rfl
      have whole := (start_add_sum_le_timeAfter times _).trans last
      exact (le_of_add_le_add_left whole).trans (le_max_left _ _)

/-! ### The delays of a wait -/

theorem begins_succ_le (limited : v.policy.maxWait = some limit) {n : Nat}
    (pending : v.ending? n = none) : v.begins (n + 1) ≤ v.start + limit := by
  have idles : v.Idles n := v.ending?_eq_none_iff.mp pending
  have timely : v.ends n - v.start + v.policy.delay n ≤ limit := not_lt.mp (idles.2 limit limited)
  have begins : v.begins (n + 1) = v.start + (v.ends n - v.start + v.policy.delay n) := by
    rw [begins, ← ends]
    abel
  rw [begins]
  exact add_le_add_right timely v.start

theorem inTime_roundsBefore (limited : v.policy.maxWait = some limit) {n : Nat}
    (earlier : ∀ i < n, v.GoesOn i) : v.InTime limit (v.roundsBefore n) := by
  induction n with
  | zero => exact inTime_nil
  | succ n ih =>
    have before : v.InTime limit (v.roundsBefore n) :=
      ih fun i within => earlier i (Nat.lt_succ_of_lt within)
    have polled : v.InTime limit (v.roundsBefore n ++ v.callsOf n) := before.append_called _
    rw [roundsBefore_succ, round, ← List.append_assoc]
    refine polled.concat_slept ?_
    rw [timeAfter_polled]
    exact begins_succ_le limited (earlier n (Nat.lt_succ_self n)).1

theorem inTime_endOf (limited : v.policy.maxWait = some limit) {n : Nat}
    (earlier : ∀ i < n, v.GoesOn i) (stops : ¬ v.GoesOn n) :
    v.InTime limit (v.endOf n).2.journal := by
  have polled : v.InTime limit (v.roundsBefore n ++ v.callsOf n) :=
    (inTime_roundsBefore limited earlier).append_called _
  rw [endOf]
  cases pending : v.ending? n with
  | some e => exact polled
  | none =>
    have cut : (v.pauseAfter n).cut = true := by
      by_contra uncut
      exact stops ⟨pending, Bool.eq_false_iff.mpr uncut⟩
    show v.InTime limit
      (v.roundsBefore n ++ v.callsOf n ++ (v.pauseAfter n).slept.toList.map .slept)
    rcases Pause.slept_of_cut cut with nothing | ⟨part, given, -, least⟩
    · have unslept : (v.pauseAfter n).slept = none := nothing
      simpa [unslept] using polled
    · have slept : (v.pauseAfter n).slept = some part := given
      have last : v.timeAfter (v.roundsBefore n ++ v.callsOf n) + part ≤ v.start + limit := by
        rw [timeAfter_polled]
        exact (add_le_add_right least (v.ends n)).trans (begins_succ_le limited pending)
      simpa [slept] using polled.concat_slept last

/-- A poll begins as many intervals after the start as there were polls before, at the least. -/
theorem start_add_intervals_le_begins (accepted : v.policy.refusal? = none) (times : v.TakesTime)
    (n : Nat) : v.start + n * v.policy.interval ≤ v.begins n := by
  induction n with
  | zero => simp [begins]
  | succ n ih =>
    have polled : v.start + n * v.policy.interval ≤ v.ends n := ih.trans (v.begins_le_ends times n)
    calc v.start + (n + 1 : ℕ) * v.policy.interval
        = v.start + n * v.policy.interval + v.policy.interval := by
          rw [Nat.cast_succ, add_mul, one_mul, add_assoc]
      _ ≤ v.ends n + v.policy.delay n :=
          add_le_add polled (PollPolicy.interval_le_delay accepted n)
      _ = v.begins (n + 1) := rfl

end InTime

/-! ### Waits with a longest time -/

section Limited

variable {α : Type} [Field α] [LinearOrder α] [IsStrictOrderedRing α] [FloorRing α] {v : Vigil α}
  {limit : α}

/-- After how many polls a wait can go on that has a longest time. -/
theorem succ_le_of_pending (limited : v.policy.maxWait = some limit)
    (accepted : v.policy.refusal? = none) (times : v.TakesTime) {n : Nat}
    (pending : v.ending? n = none) : ((n + 1 : ℕ) : ℤ) ≤ ⌊limit / v.policy.interval⌋ := by
  have most : v.begins (n + 1) ≤ v.start + limit := begins_succ_le limited pending
  have least := start_add_intervals_le_begins accepted times (n + 1)
  have intervals : ((n + 1 : ℕ) : α) * v.policy.interval ≤ limit :=
    le_of_add_le_add_left (least.trans most)
  rw [Int.le_floor, Int.cast_natCast]
  exact (le_div_iff₀ (PollPolicy.interval_pos accepted)).mpr intervals

/-- What a wait with a longest time comes to. -/
structure EndsInTime (v : Vigil α) (limit : α)
    (came : Except Fault (Option PollResult) × Timeline α) : Prop where
  /-- It ends. -/
  ended : came.1 ≠ .ok none
  /-- It makes one poll, and as many more as there are whole intervals in the longest time. -/
  polls : (came.2.trees : ℤ) ≤ max 0 ⌊limit / v.policy.interval⌋ + 1
  /-- The time after its journal is the time on its clock. -/
  clock : v.timeAfter came.2.journal = came.2.clock
  /-- No delay ends later than the longest time after the start. -/
  inTime : v.InTime limit came.2.journal
  /-- All delays together are not longer than the longest time. -/
  slept : came.2.slept.sum ≤ max limit 0

/-- A wait with a longest time ends in time, whatever the network does and whether the caller asks
to stop or not. -/
theorem run_endsInTime (limited : v.policy.maxWait = some limit)
    (accepted : v.policy.refusal? = none) (times : v.TakesTime) :
    ∃ came, v.EndsInTime limit came ∧
      ∀ bound : Nat, max 0 ⌊limit / v.policy.interval⌋ + 1 ≤ (bound : ℤ) → v.run bound = came := by
  obtain ⟨most, counted⟩ : ∃ most : Nat, (most : ℤ) = max 0 ⌊limit / v.policy.interval⌋ :=
    ⟨_, Int.toNat_of_nonneg (le_max_left 0 _)⟩
  have going : ∀ n, v.ending? n = none → n < most := by
    intro n pending
    have intervals := succ_le_of_pending limited accepted times pending
    have enough := intervals.trans (le_max_right 0 _)
    omega
  have stops : ¬ v.GoesOn most := fun goesOn => absurd (going most goesOn.1) (lt_irrefl most)
  obtain ⟨n, least, stop⟩ := exists_stopsAt stops
  have inTime := inTime_endOf limited stop.earlier stop.stops
  refine ⟨v.endOf n, ?ends, fun bound enough => run_of_stopsAt (by omega) stop⟩
  have polls : ((v.endOf n).2.trees : ℤ) ≤ max 0 ⌊limit / v.policy.interval⌋ + 1 := by
    rw [trees_endOf, ← counted]
    exact_mod_cast Nat.succ_le_succ least
  exact ⟨endOf_ne_ok_none n, polls, v.timeAfter_endOf n, inTime, inTime.sum_le times⟩

end Limited

/-! ### A wait that gives up -/

/-- A wait on an exact clock: the tree of the transaction has no leaf, a call takes half a second,
and the next delay would pass the longest time after the third poll. -/
def impatientVigil : Vigil ℚ where
  settings := Settings.standard ⟨"/", ["run"]⟩
  transaction := "77"
  policy := ⟨3 / 2, 2, 60, some 8⟩
  answers := fun _ => ⟨⟨1 / 2, false, .ok ⟨"", ""⟩⟩, ⟨1 / 2, false, .ok ⟨"", ""⟩⟩⟩
  start := 0
  stop := none
  seconds := Int.floor
  rounded := toString

/-- It gives up after three polls, while its longest time has five whole intervals. -/
theorem run_endsInTime_sample :
    impatientVigil.policy.maxWait = some 8 ∧ impatientVigil.policy.refusal? = none ∧
      impatientVigil.TakesTime ∧ (impatientVigil.run 6).2.slept = [3 / 2, 3] ∧
      ⌊(8 : ℚ) / impatientVigil.policy.interval⌋ = 5 ∧
      ∃ came, impatientVigil.EndsInTime 8 came ∧
        ∀ bound : Nat, max 0 ⌊(8 : ℚ) / impatientVigil.policy.interval⌋ + 1 ≤ (bound : ℤ) →
          impatientVigil.run bound = came := by
  have limited : impatientVigil.policy.maxWait = some 8 := rfl
  have accepted : impatientVigil.policy.refusal? = none := by decide +kernel
  have call : (0 : ℚ) ≤ 1 / 2 := by decide +kernel
  have times : impatientVigil.TakesTime := fun _ => ⟨call, call⟩
  exact ⟨limited, accepted, times, by decide +kernel, by decide +kernel,
    run_endsInTime limited accepted times⟩

end Vigil

end ProofRelay
