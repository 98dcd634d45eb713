import ProofRelay.Proofs.Poll.Outcome
import ProofRelay.Proofs.Poll.Schedule

/-!
# Requests to stop only cut

A request to stop shows in a wait only at the end of a delay, which it may bring forward.  So a wait
of a caller that may ask to stop does what the same wait of one that cannot does, up to a delay that
is cut short; if none is, the two are the same.  What a poll that is being made comes to stays as it
is.

Whether a request cuts a delay is decided by the times, which only grow: calls take no negative
time, and the delays of an accepted schedule are positive.  A request that is not there at some time
was not there at any time before.

## Main definitions

* `Vigil.OnlyCut` : how a wait compares with the same one of a caller that cannot ask to stop.

## Main results

* `Vigil.run_onlyCut` : every wait compares so.
-/

namespace ProofRelay

section Ordered

variable {α : Type} [Ring α] [LinearOrder α] [IsStrictOrderedRing α]

/-! ### Delays and requests in time -/

omit [Ring α] [IsStrictOrderedRing α] in
/-- A request that is there stays. -/
theorem StopRequest.isDue_mono {r : StopRequest α} {s t : α} (later : s ≤ t)
    (due : r.isDue s = true) : r.isDue t = true := by
  rw [isDue_iff] at due ⊢
  exact due.imp_right fun ⟨time, given, passed⟩ => ⟨time, given, passed.trans later⟩

/-- A delay is cut short by a request that is there at the end of it at the latest. -/
theorem Pause.isDue_of_cut {stop : Option (StopRequest α)} {time seconds : α} (lasts : 0 ≤ seconds)
    (cut : (Pause.under stop time seconds).cut = true) :
    stop.any (·.isDue (time + seconds)) = true := by
  cases stop with
  | none => cases cut
  | some r =>
    rw [Option.any_some]
    rw [under, Option.any_some] at cut
    split at cut
    · next early => exact StopRequest.isDue_mono (le_add_of_nonneg_right lasts) early
    · split at cut
      · cases cut
      · next due given =>
        split at cut
        · next inTime => exact StopRequest.isDue_iff.mpr (.inr ⟨due, given, inTime⟩)
        · cases cut

/-- Of a delay that is cut short a part is slept, if any. -/
theorem Pause.slept_of_cut {stop : Option (StopRequest α)} {time seconds : α}
    (cut : (Pause.under stop time seconds).cut = true) :
    (Pause.under stop time seconds).slept = none ∨
      ∃ part, (Pause.under stop time seconds).slept = some part ∧ 0 < part ∧ part ≤ seconds := by
  cases stop with
  | none => cases cut
  | some r =>
    rw [under, Option.any_some] at cut ⊢
    split at cut
    · next early => exact .inl (by rw [if_pos early])
    · next early =>
      rw [if_neg early]
      split at cut
      · cases cut
      · next due given =>
        split at cut
        · next inTime =>
          have ahead : time < due := by
            refine not_le.mp fun passed => early ?_
            exact StopRequest.isDue_iff.mpr (.inr ⟨due, given, passed⟩)
          refine .inr ⟨due - time, ?_, sub_pos.mpr ahead, sub_le_iff_le_add'.mpr inTime⟩
          rw [if_pos inTime]
        · cases cut

namespace Vigil

variable (v : Vigil α)

/-! ### Times of the polls -/

/-- No call takes negative time. -/
def TakesTime : Prop :=
  ∀ n, 0 ≤ (v.answers n).tree.time ∧ 0 ≤ (v.answers n).output.time

theorem begins_le_ends (times : v.TakesTime) (n : Nat) : v.begins n ≤ v.ends n := by
  obtain ⟨tree, output⟩ := times n
  rw [ends, Answer.endFrom]
  split
  · exact le_add_of_nonneg_right tree
  · exact (le_add_of_nonneg_right tree).trans (le_add_of_nonneg_right output)

theorem begins_monotone (accepted : v.policy.refusal? = none) (times : v.TakesTime) :
    Monotone v.begins :=
  monotone_nat_of_le_succ fun n =>
    (v.begins_le_ends times n).trans (le_add_of_nonneg_right (PollPolicy.delay_pos accepted n).le)

omit [Ring α] [IsStrictOrderedRing α] in
theorem isDue_stopBefore_mono {i k : Nat} (later : i ≤ k) {time : α}
    (due : (v.stopBefore i).any (·.isDue time) = true) :
    (v.stopBefore k).any (·.isDue time) = true := by
  induction later with
  | refl => exact due
  | @step k later ih =>
    rw [stopBefore]
    split
    · cases stop : v.stopBefore k with
      | none =>
        rw [stop] at ih
        cases ih
      | some r => rfl
    · exact ih

/-- A request that is not there when a poll begins cut no delay before. -/
theorem pauseAfter_cut_of_not_dueBefore (accepted : v.policy.refusal? = none)
    (times : v.TakesTime) {i k : Nat} (before : i < k) (free : v.dueBefore k = false) :
    (v.pauseAfter i).cut = false := by
  refine Bool.eq_false_iff.mpr fun cut => ?_
  have due : (v.stopBefore (i + 1)).any (·.isDue (v.begins (i + 1))) = true :=
    Pause.isDue_of_cut (PollPolicy.delay_pos accepted i).le cut
  have later : v.begins (i + 1) ≤ v.begins k := v.begins_monotone accepted times before
  have dueThen : v.dueBefore k = true := by
    have kept := v.isDue_stopBefore_mono before due
    rw [dueBefore]
    cases stop : v.stopBefore k with
    | none =>
      rw [stop] at kept
      cases kept
    | some r =>
      rw [stop] at kept
      exact StopRequest.isDue_mono later kept
  rw [dueThen] at free
  cases free

omit [IsStrictOrderedRing α] in
/-- There is no request to stop when a poll begins to which the wait has come by a delay. -/
theorem not_dueBefore_of_goesOn {n m : Nat} (earlier : ∀ i < n, v.GoesOn i) (notFirst : 0 < m)
    (reached : m ≤ n) : v.dueBefore m = false := by
  obtain ⟨i, rfl⟩ := Nat.exists_eq_succ_of_ne_zero notFirst.ne'
  exact Pause.not_isDue_of_not_cut (earlier i reached).2

/-! ### The two waits -/

omit [IsStrictOrderedRing α] in
theorem roundsBefore_prefix {k n : Nat} (before : k ≤ n) :
    v.roundsBefore k <+: v.roundsBefore n := by
  induction before with
  | refl => exact List.prefix_rfl
  | step _ ih =>
    rw [roundsBefore_succ]
    exact ih.trans (List.prefix_append _ _)

omit [IsStrictOrderedRing α] in
/-- A wait that nobody stops begins with the rounds that go on. -/
theorem roundsBefore_prefix_plain {bound k : Nat} (within : k ≤ bound)
    (earlier : ∀ i < k, v.Idles i) : v.roundsBefore k <+: (v.plain.run bound).2.journal := by
  rcases v.exists_lastPoll_or_idles bound with ⟨n, reached, e, idle, last⟩ | every
  · rw [v.plain_run_of_lastPoll reached idle last]
    have before : k ≤ n := not_lt.mp fun after => last.not_idles (earlier n after)
    exact (v.roundsBefore_prefix before).trans (List.prefix_append _ _)
  · rw [v.plain_run_of_idles every]
    exact v.roundsBefore_prefix within

/-- How a wait compares with the same wait of a caller that cannot ask to stop. -/
structure OnlyCut (bound : Nat) : Prop where
  /-- The calls are those with which the other wait begins. -/
  calls : (v.run bound).2.calls <+: (v.plain.run bound).2.calls
  /-- So is all that is done, but for the last delay of a wait that is stopped in it: of this a part
  is slept. -/
  journal : (v.run bound).2.journal <+: (v.plain.run bound).2.journal ∨
    ∃ common part whole, (v.run bound).2.journal = common ++ [.slept part] ∧
      0 < part ∧ part ≤ whole ∧
      common ++ [.slept whole] <+: (v.plain.run bound).2.journal ∧
      (v.run bound).1 = .error (cancelledFault v.transaction)
  /-- It comes to what the other wait comes to, or it was stopped. -/
  outcome : (v.run bound).1 = (v.plain.run bound).1 ∨
    (v.run bound).1 = .error (cancelledFault v.transaction)
  /-- What the poll that is being made comes to stays. -/
  kept : ∀ n e, (v.run bound).2.trees = n + 1 → v.LastPoll n e → (v.run bound).1 = e.map some
  /-- No poll but the first begins when there is a request to stop. -/
  unstarted : ∀ n, 0 < n → n < (v.run bound).2.trees → v.dueBefore n = false
  /-- The two are the same if there is no request by the end of the last delay of the other wait. -/
  same : ∀ n, (v.plain.run bound).2.slept.length = n → n = 0 ∨ v.dueBefore n = false →
    (v.run bound).1 = (v.plain.run bound).1 ∧
      { (v.run bound).2 with stop := none } = (v.plain.run bound).2

omit [IsStrictOrderedRing α] in
/-- A wait that is not stopped is the other wait. -/
theorem onlyCut_of_same {bound n : Nat} (polls : (v.run bound).2.trees = n)
    (goesOn : ∀ i, i + 1 < n → v.GoesOn i)
    (kept : ∀ i e, n = i + 1 → v.LastPoll i e → (v.run bound).1 = e.map some)
    (result : (v.run bound).1 = (v.plain.run bound).1)
    (timeline : { (v.run bound).2 with stop := none } = (v.plain.run bound).2) :
    v.OnlyCut bound where
  calls := by
    rw [← timeline]
    exact List.prefix_rfl
  journal := by
    rw [← timeline]
    exact .inl List.prefix_rfl
  outcome := .inl result
  kept := fun i e made last => kept i e (polls.symm.trans made) last
  unstarted := fun m notFirst made =>
    v.not_dueBefore_of_goesOn (fun i before => goesOn i (by omega)) notFirst le_rfl
  same := fun _ _ _ => ⟨result, timeline⟩

/-- A wait that is stopped in the delay after a poll is the other wait up to there. -/
theorem onlyCut_of_cut (accepted : v.policy.refusal? = none) (times : v.TakesTime)
    {bound n : Nat} (within : n < bound) (earlier : ∀ i < n, v.GoesOn i)
    (idles : ∀ i < n + 1, v.Idles i) (cut : (v.pauseAfter n).cut = true)
    (came : v.run bound =
      (.error (cancelledFault v.transaction), (v.polled n).afterPause (v.pauseAfter n))) :
    v.OnlyCut bound := by
  have whole : v.roundsBefore n ++ v.callsOf n ++ [.slept (v.policy.delay n)] <+:
      (v.plain.run bound).2.journal := by
    have rounds := v.roundsBefore_prefix_plain within idles
    rwa [roundsBefore_succ, round, ← List.append_assoc] at rounds
  have made : (v.run bound).2.journal =
      v.roundsBefore n ++ v.callsOf n ++ (v.pauseAfter n).slept.toList.map .slept := by
    rw [came]
    rfl
  have stopped : (v.run bound).1 = .error (cancelledFault v.transaction) := by rw [came]
  have polls : (v.run bound).2.trees = n + 1 := by
    rw [came]
    rfl
  refine ⟨?calls, ?journal, .inr stopped, ?kept, ?unstarted, ?same⟩
  case calls =>
    have slept : ∀ time : Option α,
        (time.toList.map Moment.slept).filterMap Moment.call? = [] := by
      rintro (_ | time) <;> rfl
    have called : (v.run bound).2.calls =
        (v.roundsBefore n ++ v.callsOf n).filterMap Moment.call? := by
      rw [Timeline.calls, made, List.filterMap_append, slept, List.append_nil]
    rw [called]
    exact (List.prefix_append _ _).trans whole |>.filterMap _
  case journal =>
    rw [made]
    rcases Pause.slept_of_cut cut with unslept | ⟨part, given, positive, least⟩
    · have nothing : (v.pauseAfter n).slept = none := unslept
      rw [nothing]
      refine .inl ?_
      simpa using (List.prefix_append _ _).trans whole
    · have slept : (v.pauseAfter n).slept = some part := given
      rw [slept]
      exact .inr ⟨_, part, v.policy.delay n, rfl, positive, least, whole, stopped⟩
  case kept =>
    intro i e trees last
    obtain rfl : n = i := by omega
    exact absurd (idles n (Nat.lt_succ_self n)) last.not_idles
  case unstarted =>
    intro m notFirst trees
    exact v.not_dueBefore_of_goesOn earlier notFirst (by omega)
  case same =>
    -- The other wait sleeps once more at least, so that the request came before its last delay
    -- ended.
    intro k sleeps free
    have slept : n + 1 ≤ k := by
      have rounds := (v.roundsBefore_prefix_plain within idles).filterMap Moment.slept?
      rw [slept_roundsBefore] at rounds
      have shorter := rounds.length_le
      rw [List.length_map, List.length_range] at shorter
      rw [← sleeps]
      exact shorter
    have uncut : (v.pauseAfter n).cut = false := by
      refine v.pauseAfter_cut_of_not_dueBefore accepted times slept ?_
      exact free.resolve_left (by omega)
    rw [uncut] at cut
    cases cut

/-- A request to stop only cuts a wait: up to the cut it does the same, and without one all of
it. -/
theorem run_onlyCut (accepted : v.policy.refusal? = none) (times : v.TakesTime) (bound : Nat) :
    v.OnlyCut bound := by
  obtain ⟨came, run⟩ : ∃ came, v.run bound = came := ⟨_, rfl⟩
  have course : v.Course bound came.1 came.2 := run ▸ v.run_course bound
  obtain ⟨result, t⟩ := came
  cases course with
  | @ended n e within earlier last =>
    have run : v.run bound = (e.map some, v.polled n) := run
    have lastPoll := v.ending?_eq_some_iff.mp last
    have idles : ∀ i < n, v.Idles i := fun i before => v.ending?_eq_none_iff.mp (earlier i before).1
    have plain := v.plain_run_of_lastPoll within idles lastPoll
    refine v.onlyCut_of_same (n := n + 1) ?polls (fun i before => earlier i (by omega)) ?kept
      ?result ?timeline
    case polls => rw [run, polled]
    case kept =>
      intro i e' made last'
      obtain rfl : n = i := by omega
      rw [v.ending?_eq_some_iff.mpr last'] at last
      rw [run, Option.some.inj last]
    case result => rw [run, plain]
    case timeline =>
      rw [run, plain]
      simp only [polled, plain_ends, plain_stopBefore]
      rfl
  | @cut n within earlier last cut =>
    refine v.onlyCut_of_cut accepted times within earlier (fun i reached => ?_) cut run
    rcases Nat.lt_succ_iff_lt_or_eq.mp reached with before | rfl
    · exact v.ending?_eq_none_iff.mp (earlier i before).1
    · exact v.ending?_eq_none_iff.mp last
  | bounded all =>
    have idles : ∀ i < bound, v.Idles i := fun i before => v.ending?_eq_none_iff.mp (all i before).1
    have plain := v.plain_run_of_idles idles
    refine v.onlyCut_of_same (n := bound) ?polls (fun i before => all i (by omega)) ?kept
      ?result ?timeline
    case polls => rw [run]
    case kept =>
      intro i e made last
      exact absurd (idles i (by omega)) last.not_idles
    case result => rw [run, plain]
    case timeline =>
      rw [run, plain]
      simp only [before, plain_begins, plain_stopBefore]
      rfl

end Vigil

end Ordered

/-! ### A wait that is stopped -/

/-- A wait on a clock of whole seconds: the tree of the transaction has no leaf, a call takes two
seconds, and the request to stop is there from the fifteenth second on. -/
def sampleVigil : Vigil Int where
  settings := Settings.standard ⟨"/", ["run"]⟩
  transaction := "77"
  policy := ⟨10, 2, 60, none⟩
  answers := fun _ => ⟨⟨2, false, .ok ⟨"", ""⟩⟩, ⟨2, false, .ok ⟨"", ""⟩⟩⟩
  start := 0
  stop := some ⟨false, some 15⟩
  seconds := id
  rounded := toString

/-- It is stopped in its second delay, of which one second is slept. -/
theorem run_onlyCut_sample :
    sampleVigil.policy.refusal? = none ∧ sampleVigil.TakesTime ∧
      (sampleVigil.run 5).2.slept = [10, 1] ∧
      (sampleVigil.plain.run 5).2.slept = [10, 20, 40, 60, 60] ∧
      sampleVigil.OnlyCut 5 := by
  have accepted : sampleVigil.policy.refusal? = none := by decide
  have call : (0 : Int) ≤ 2 := by decide
  have times : sampleVigil.TakesTime := fun _ => ⟨call, call⟩
  exact ⟨accepted, times, by decide, by decide, sampleVigil.run_onlyCut accepted times 5⟩

end ProofRelay
