import Mathlib.Algebra.Order.Archimedean.Basic
import ProofRelay.Proofs.Poll.Durations
import ProofRelay.Proofs.Poll.Outcome
import ProofRelay.Proofs.Poll.Schedule

/-!
# Schedules that are accepted and those that can be used

A schedule is accepted unless its interval is zero or less, or its factor less than one.  Numbers
that are read from a text may also be infinite, or the value that is no number, which fails every
comparison and is accepted therefore.  So not every accepted schedule can be used: a delay may be
infinite or no number, and a wait with a longest time may go on for ever.

When this happens is told here.  The delays are looked at in any type of numbers that is read as
one with infinities, so that the results hold for floating-point numbers: all that is asked of a
product is that it does not make a delay shorter.  What a wait comes to is told on an exact clock,
where times are added without rounding, also when the delays are rounded.

## Main definitions

* `PollPolicy.IsDelay` : the delays that can be waited.
* `PollPolicy.uncut`, `PollPolicy.IsCapped` : the delays without a cap, and whether there is one.
* `Vigil.StaysPending`, `Vigil.TimesOut` : waits on a network that stays pending, and those that
  end with the fault of the longest wait.

## Main results

* `PollPolicy.isDelay_iff` : when all delays of an accepted schedule can be waited.
* `Vigil.StaysPending.timesOut_iff_usable` : when a pending wait with a longest time gives up.
* `PollPolicy.accepted_usable_iff` : which accepted schedules of floating-point numbers can be used.
-/

namespace ProofRelay

open ReadsWide

namespace PollPolicy

/-! ### The two choices -/

section Choices

variable {K : Type} [LinearOrder K] {x y : K}

/-- The value that is no number is not cut. -/
theorem nan_lesser (a : Wide K) : lesser .nan a = .nan :=
  if_neg Wide.not_lt_nan

/-- Numbers from a number on are cut to such. -/
theorem exists_lesser_eq {a : Wide K} (atLeast : a.AtLeast x) (bound : x ≤ y) :
    ∃ z, lesser a (.finite y) = .finite z ∧ x ≤ z := by
  rcases atLeast with rfl | ⟨w, rfl, least⟩
  · exact ⟨y, if_pos Wide.finite_lt_top, bound⟩
  · rw [lesser]
    split
    · exact ⟨y, rfl, bound⟩
    · exact ⟨w, rfl, least⟩

end Choices

section Delays

variable {α K : Type} [Ring K] [LinearOrder K] [LT α] [LE α] [Mul α] [OfNat α 0] [OfNat α 1]
  [ReadsWide α K]

/-- A delay that can be waited: it is finite and positive. -/
def IsDelay (d : α) : Prop :=
  ∃ x : K, value d = .finite x ∧ 0 < x

/-- A schedule of the numbers that its numbers are read as. -/
def wide (p : PollPolicy α) : PollPolicy (Wide K) where
  interval := value p.interval
  factor := value p.factor
  cap := value p.cap
  maxWait := p.maxWait.map value

/-- The delays without a cap. -/
def uncut (p : PollPolicy α) : Nat → α
  | 0 => p.interval
  | n + 1 => p.uncut n * p.factor

/-- Whether there is a cap: a number, or the infinity below all numbers. -/
def IsCapped (p : PollPolicy α) : Prop :=
  value p.cap < .top

variable {p : PollPolicy α} {i : K}

/-- The cap of a schedule that has one is not below its interval. -/
theorem IsCapped.exists_greater_eq (capped : p.IsCapped) (interval : value p.interval = .finite i) :
    ∃ c, greater (value p.cap) (value p.interval) = .finite c ∧ i ≤ c := by
  rw [interval, greater]
  rcases Wide.lt_top_iff.mp capped with bottom | ⟨x, cap⟩
  · rw [bottom, if_pos Wide.bottom_lt_finite]
    exact ⟨i, rfl, le_rfl⟩
  · rw [cap]
    split
    · exact ⟨i, rfl, le_rfl⟩
    · next notLess => exact ⟨x, rfl, not_lt.mp (Wide.finite_lt_finite.not.mp notLess)⟩

variable [DecidableLT α]

theorem value_lesser (a b : α) : value (lesser a b) = lesser (value a) (value b) := by
  by_cases less : b < a
  · rw [lesser, lesser, if_pos less, if_pos ((lt_iff b a).mp less)]
  · rw [lesser, lesser, if_neg less, if_neg fun h => less ((lt_iff b a).mpr h)]

theorem value_greater (a b : α) : value (greater a b) = greater (value a) (value b) := by
  by_cases less : a < b
  · rw [greater, greater, if_pos less, if_pos ((lt_iff a b).mp less)]
  · rw [greater, greater, if_neg less, if_neg fun h => less ((lt_iff a b).mpr h)]

/-! ### Accepted schedules -/

variable [DecidableLE α]

/-- The interval of an accepted schedule is positive, infinite, or no number. -/
theorem not_interval_le (accepted : p.refusal? = none) : ¬ value p.interval ≤ .finite 0 := by
  rw [← value_zero (α := α), ← le_iff]
  exact (refusal?_eq_none_iff.mp accepted).1

/-- The factor of an accepted schedule is one or more, infinite, or no number. -/
theorem not_factor_lt (accepted : p.refusal? = none) : ¬ value p.factor < .finite 1 := by
  rw [← value_one (α := α), ← lt_iff]
  exact (refusal?_eq_none_iff.mp accepted).2

omit [DecidableLE α] in
/-- With a factor that is no number, every delay but the first is none. -/
theorem value_delay_succ_of_nan (factor : value p.factor = .nan) (k : Nat) :
    value (p.delay (k + 1)) = .nan := by
  rw [PollPolicy.delay, nextDelay, value_lesser, value_mul_of_nan _ _ factor, nan_lesser]

/-! ### Schedules with a cap -/

/-- With a cap all delays are finite, and none is shorter than the interval. -/
theorem IsCapped.exists_delay_eq (capped : p.IsCapped) (accepted : p.refusal? = none)
    (interval : value p.interval = .finite i) (positive : 0 < i) (factor : value p.factor ≠ .nan)
    (k : Nat) : ∃ x, value (p.delay k) = .finite x ∧ i ≤ x := by
  obtain ⟨c, ceiling, above⟩ := capped.exists_greater_eq interval
  induction k with
  | zero => exact ⟨i, interval, le_rfl⟩
  | succ k ih =>
    obtain ⟨x, delay, least⟩ := ih
    have longer := atLeast_mul (p.delay k) p.factor i (.inr ⟨x, delay, least⟩) positive factor
      (not_factor_lt accepted)
    rw [PollPolicy.delay, nextDelay, value_lesser, value_greater, ceiling]
    exact exists_lesser_eq longer above

/-! ### Schedules without one -/

omit [DecidableLE α] in
/-- Without a cap nothing is cut. -/
theorem delay_eq_uncut (interval : value p.interval = .finite i) (uncapped : ¬ p.IsCapped)
    (k : Nat) : p.delay k = p.uncut k := by
  have never : ∀ d : α, ¬ greater p.cap p.interval < d := by
    intro d
    rw [lt_iff, value_greater, interval]
    cases cap : value p.cap with
    | finite | bottom => simp [IsCapped, cap] at uncapped
    | top =>
      rw [greater, if_neg Wide.not_top_lt]
      exact Wide.not_top_lt
    | nan =>
      rw [greater, if_neg Wide.not_nan_lt]
      exact Wide.not_nan_lt
  induction k with
  | zero => rfl
  | succ k ih =>
    rw [PollPolicy.delay, nextDelay, lesser, if_neg (never _), ih, uncut]

/-- No uncut delay is shorter than the interval, though it may have left the range. -/
theorem atLeast_uncut (accepted : p.refusal? = none) (interval : value p.interval = .finite i)
    (positive : 0 < i) (factor : value p.factor ≠ .nan) (k : Nat) :
    (value (p.uncut k)).AtLeast i := by
  induction k with
  | zero => exact .inr ⟨i, interval, le_rfl⟩
  | succ k ih => exact atLeast_mul _ _ i ih positive factor (not_factor_lt accepted)

/-- Nor is a delay of the schedule. -/
theorem atLeast_delay (accepted : p.refusal? = none) (interval : value p.interval = .finite i)
    (positive : 0 < i) (factor : value p.factor ≠ .nan) (k : Nat) :
    (value (p.delay k)).AtLeast i := by
  by_cases capped : p.IsCapped
  · exact .inr (capped.exists_delay_eq accepted interval positive factor k)
  · rw [delay_eq_uncut interval capped]
    exact atLeast_uncut accepted interval positive factor k

omit [DecidableLE α] in
/-- With an interval that is no number, no delay is one. -/
theorem value_delay_of_interval_nan (interval : value p.interval = .nan) (k : Nat) :
    value (p.delay k) = .nan := by
  induction k with
  | zero => exact interval
  | succ k ih =>
    rw [PollPolicy.delay, nextDelay, value_lesser, value_nan_mul _ _ ih, nan_lesser]

/-- The interval of an accepted schedule is positive if it is finite. -/
theorem finite_interval_pos (accepted : p.refusal? = none)
    (interval : value p.interval = .finite i) : 0 < i := by
  have notLe := not_interval_le accepted
  rw [interval, Wide.finite_le_finite] at notLe
  exact not_le.mp notLe

/-! ### Schedules that can be used -/

/-- The delays of an accepted schedule can all be waited exactly if its interval is finite, its
factor is a number, and there is a cap or the delays never leave the range. -/
theorem isDelay_iff (accepted : p.refusal? = none) : (∀ k, IsDelay (p.delay k)) ↔
    (∃ x : K, value p.interval = .finite x) ∧ value p.factor ≠ .nan ∧
      (p.IsCapped ∨ ∀ k, ∃ x : K, value (p.uncut k) = .finite x) := by
  constructor
  · intro usable
    obtain ⟨i, interval, positive⟩ := usable 0
    -- The first delay is the interval, and the second one is no number if the factor is none.
    refine ⟨⟨i, interval⟩, fun factor => ?factor, ?range⟩
    case factor =>
      obtain ⟨x, delay, -⟩ := usable 1
      rw [value_delay_succ_of_nan factor] at delay
      cases delay
    case range =>
      by_cases capped : p.IsCapped
      · exact .inl capped
      · refine .inr fun k => ?_
        obtain ⟨x, delay, -⟩ := usable k
        rw [delay_eq_uncut interval capped] at delay
        exact ⟨x, delay⟩
  · rintro ⟨⟨i, interval⟩, factor, range⟩ k
    have positive := finite_interval_pos accepted interval
    by_cases capped : p.IsCapped
    · obtain ⟨x, delay, least⟩ := capped.exists_delay_eq accepted interval positive factor k
      exact ⟨x, delay, positive.trans_le least⟩
    · obtain ⟨x, inRange⟩ := range.resolve_left capped k
      have least := atLeast_uncut accepted interval positive factor k
      rw [inRange, Wide.atLeast_finite] at least
      exact ⟨x, delay_eq_uncut interval capped k ▸ inRange, positive.trans_le least⟩

end Delays

end PollPolicy

/-! ### Waits -/

namespace Vigil

section Limited

variable {α K : Type} [Ring K] [LinearOrder K] [LT α] [LE α] [Add α] [Sub α] [Mul α] [OfNat α 0]
  [OfNat α 1] [AddsExactly α K] [DecidableLT α]

/-- A wait on a network that stays pending and takes finite times, from a finite time on. -/
structure StaysPending (v : Vigil α) : Prop where
  /-- The clock starts at a number. -/
  start : ∃ x : K, value v.start = .finite x
  /-- A call takes a time that is a number and not negative. -/
  times : ∀ n, (∃ x : K, value (v.answers n).tree.time = .finite x ∧ 0 ≤ x) ∧
    ∃ x : K, value (v.answers n).output.time = .finite x ∧ 0 ≤ x
  /-- Every poll is pending. -/
  pending : ∀ n, ∃ result, (v.answers n).outcome = .ok result ∧ result.verdict = .pending

/-- Whether the delay after a poll would pass a longest wait. -/
def IsLate (v : Vigil α) (limit : Wide K) (n : Nat) : Prop :=
  limit < value (v.ends n - v.start + v.policy.delay n)

variable [DecidableLE α]

/-- A wait that ends with the fault of the longest wait, after the same number of polls under every
bound that allows for them. -/
def TimesOut (v : Vigil α) : Prop :=
  ∃ n, ∀ bound > n, (v.plain.run bound).2.trees = n + 1 ∧ (v.plain.run bound).1 =
    .error (timeoutFault v.transaction (toString (v.seconds (v.ends n - v.start))) (n + 1))

variable {v : Vigil α} {limit : α}

omit [DecidableLE α] in
theorem StaysPending.idles_iff (pending : v.StaysPending) (limited : v.policy.maxWait = some limit)
    (n : Nat) : v.Idles n ↔ ¬ v.IsLate (value limit) n := by
  rw [IsLate, ← lt_iff]
  constructor
  · exact fun idles => idles.2 limit limited
  · intro timely
    refine ⟨pending.pending n, fun limit' limited' => ?_⟩
    rw [limited] at limited'
    cases limited'
    exact timely

/-- A pending wait times out exactly if some delay would pass its longest time. -/
theorem StaysPending.timesOut_iff (pending : v.StaysPending)
    (limited : v.policy.maxWait = some limit) : v.TimesOut ↔ ∃ n, v.IsLate (value limit) n := by
  constructor
  · rintro ⟨n, timesOut⟩
    by_contra never
    have idles : ∀ i < n + 1, v.Idles i :=
      fun i _ => (pending.idles_iff limited i).mpr fun late => never ⟨i, late⟩
    have ended := (timesOut (n + 1) n.lt_succ_self).2
    rw [v.plain_run_of_idles idles] at ended
    cases ended
  · rintro ⟨n, late⟩
    rcases v.exists_lastPoll_or_idles (n + 1) with ⟨m, -, e, earlier, last⟩ | idles
    · refine ⟨m, fun bound within => ?_⟩
      rw [v.plain_run_of_lastPoll within earlier last]
      obtain ⟨result, found, undecided⟩ := pending.pending m
      refine ⟨rfl, ?_⟩
      cases last with
      | final told final =>
        obtain rfl := Except.ok.inj (told.outcome.symm.trans found)
        exact absurd undecided final
      | failed failed => cases failed.symm.trans found
      | late => rfl
    · exact absurd late ((pending.idles_iff limited n).mp (idles n n.lt_succ_self))

omit [DecidableLE α] in
/-- Nothing is passed by a delay that is no number. -/
theorem not_isLate_of_delay {limit : Wide K} {n : Nat} (delay : value (v.policy.delay n) = .nan) :
    ¬ v.IsLate limit n := by
  rw [IsLate, AddsExactly.value_add, delay, Wide.add_nan]
  exact Wide.not_lt_nan

end Limited

/-! ### The time that a wait takes -/

section Progress

variable {α K : Type} [Ring K] [LinearOrder K] [IsStrictOrderedRing K] [LT α] [LE α] [Add α]
  [Sub α] [Mul α] [OfNat α 0] [OfNat α 1] [AddsExactly α K] [DecidableLT α] {v : Vigil α}
  {limit : Wide K} {i : K}

/-- A poll takes a finite time. -/
theorem StaysPending.exists_ends_eq (pending : v.StaysPending) {n : Nat} {b : K}
    (begins : value (v.begins n) = .finite b) : ∃ e, value (v.ends n) = .finite e ∧ b ≤ e := by
  obtain ⟨⟨x, tree, x_nonneg⟩, y, output, y_nonneg⟩ := pending.times n
  rw [ends, Answer.endFrom]
  cases (v.answers n).leaf? with
  | none =>
    dsimp only
    rw [AddsExactly.value_add, begins, tree]
    exact ⟨b + x, rfl, le_add_of_nonneg_right x_nonneg⟩
  | some leaf =>
    dsimp only
    rw [AddsExactly.value_add, AddsExactly.value_add, begins, tree, output]
    exact ⟨b + x + y, rfl, (le_add_of_nonneg_right x_nonneg).trans
      (le_add_of_nonneg_right y_nonneg)⟩

/-- A delay that has left the range passes any longest wait that can be passed. -/
theorem StaysPending.isLate_of_top (pending : v.StaysPending) (passable : limit < .top) {n : Nat}
    {b : K} (begins : value (v.begins n) = .finite b) (delay : value (v.policy.delay n) = .top) :
    v.IsLate limit n := by
  obtain ⟨s, start⟩ := pending.start
  obtain ⟨e, ends, -⟩ := pending.exists_ends_eq begins
  rwa [IsLate, AddsExactly.value_add, AddsExactly.value_sub, ends, start, delay,
    Wide.finite_sub_finite, Wide.finite_add_top]

variable [DecidableLE α]

/-- A poll with no late one before it begins as many intervals after the start as there were polls
before, at the least. -/
theorem StaysPending.exists_begins_eq (pending : v.StaysPending)
    (accepted : v.policy.refusal? = none) (interval : value v.policy.interval = .finite i)
    (factor : value v.policy.factor ≠ .nan) (passable : limit < .top) {s : K}
    (start : value v.start = .finite s) {n : Nat} (timely : ∀ m < n, ¬ v.IsLate limit m) :
    ∃ b, value (v.begins n) = .finite b ∧ s + n • i ≤ b := by
  have positive := PollPolicy.finite_interval_pos accepted interval
  induction n with
  | zero => exact ⟨s, start, by rw [zero_nsmul, add_zero]⟩
  | succ n ih =>
    obtain ⟨b, begins, least⟩ := ih fun m before => timely m (Nat.lt_succ_of_lt before)
    obtain ⟨e, ends, later⟩ := pending.exists_ends_eq begins
    rcases PollPolicy.atLeast_delay accepted interval positive factor n with
      delay | ⟨x, delay, longer⟩
    · exact absurd (pending.isLate_of_top passable begins delay) (timely n n.lt_succ_self)
    · refine ⟨e + x, ?_, ?_⟩
      · rw [Vigil.begins, ← Vigil.ends, AddsExactly.value_add, ends, delay, Wide.finite_add_finite]
      · rw [succ_nsmul, ← add_assoc]
        exact add_le_add (least.trans later) longer

/-- A longest wait that is less than the intervals of the polls so far is passed. -/
theorem StaysPending.isLate_of_lt (pending : v.StaysPending) (accepted : v.policy.refusal? = none)
    (interval : value v.policy.interval = .finite i) (factor : value v.policy.factor ≠ .nan)
    {n : Nat} (timely : ∀ m < n, ¬ v.IsLate limit m) (passed : limit < .finite ((n + 1) • i)) :
    v.IsLate limit n := by
  have positive := PollPolicy.finite_interval_pos accepted interval
  have passable : limit < .top := Wide.lt_top_of_lt passed
  obtain ⟨s, start⟩ := pending.start
  obtain ⟨b, begins, least⟩ :=
    pending.exists_begins_eq accepted interval factor passable start timely
  rcases PollPolicy.atLeast_delay accepted interval positive factor n with
    delay | ⟨x, delay, longer⟩
  · exact pending.isLate_of_top passable begins delay
  · obtain ⟨e, ends, later⟩ := pending.exists_ends_eq begins
    have waited : (n + 1) • i ≤ e - s + x := by
      rw [succ_nsmul]
      exact add_le_add (le_sub_iff_add_le'.mpr (least.trans later)) longer
    have whole : (value (v.ends n - v.start + v.policy.delay n)).AtLeast ((n + 1) • i) := by
      rw [AddsExactly.value_add, AddsExactly.value_sub, ends, start, delay, Wide.finite_sub_finite,
        Wide.finite_add_finite]
      exact Wide.atLeast_finite.mpr waited
    exact whole.lt_of_lt passed

/-- With an interval that is a number and a factor that is one, some delay passes any longest wait
that can be passed. -/
theorem StaysPending.exists_isLate [Archimedean K] (pending : v.StaysPending)
    (accepted : v.policy.refusal? = none) (interval : value v.policy.interval = .finite i)
    (factor : value v.policy.factor ≠ .nan) (passable : limit < .top) : ∃ n, v.IsLate limit n := by
  have positive := PollPolicy.finite_interval_pos accepted interval
  obtain ⟨n, passed⟩ : ∃ n : Nat, limit < .finite ((n + 1) • i) := by
    rcases Wide.lt_top_iff.mp passable with rfl | ⟨l, rfl⟩
    · exact ⟨0, Wide.bottom_lt_finite⟩
    · obtain ⟨n, reached⟩ := Archimedean.arch l positive
      exact ⟨n, Wide.finite_lt_finite.mpr
        (reached.trans_lt (nsmul_lt_nsmul_left positive n.lt_succ_self))⟩
  by_contra never
  exact never ⟨n, pending.isLate_of_lt accepted interval factor (fun m _ late => never ⟨m, late⟩)
    passed⟩

/-- A pending wait times out exactly if its longest time can be passed, its interval is not the
value that is no number, and neither is its factor, unless the first delay passes the longest time.
-/
theorem StaysPending.timesOut_iff_usable [Archimedean K] {limit : α} (pending : v.StaysPending)
    (accepted : v.policy.refusal? = none) (limited : v.policy.maxWait = some limit) :
    v.TimesOut ↔ value limit < .top ∧ value v.policy.interval ≠ .nan ∧
      (value v.policy.factor ≠ .nan ∨ v.IsLate (value limit) 0) := by
  rw [pending.timesOut_iff limited]
  constructor
  · rintro ⟨n, late⟩
    refine ⟨Wide.lt_top_of_lt late, fun interval => ?_, or_iff_not_imp_left.mpr fun factor => ?_⟩
    · exact not_isLate_of_delay (PollPolicy.value_delay_of_interval_nan interval n) late
    · cases n with
      | zero => exact late
      | succ n =>
        have delay := PollPolicy.value_delay_succ_of_nan (not_not.mp factor) n
        exact absurd late (not_isLate_of_delay delay)
  · rintro ⟨passable, number, usable⟩
    by_cases factor : value v.policy.factor = .nan
    · exact ⟨0, usable.resolve_left (not_not.mpr factor)⟩
    · rcases Wide.finite_or_top_of_not_le (PollPolicy.not_interval_le accepted) number with
        ⟨i, interval, -⟩ | endless
      · exact pending.exists_isLate accepted interval factor passable
      · obtain ⟨s, start⟩ := pending.start
        exact ⟨0, pending.isLate_of_top passable start endless⟩

end Progress

end Vigil

/-! ### Schedules of floating-point numbers -/

namespace PollPolicy

/-- A delay that can be waited is finite and positive. -/
theorem isDelay_iff_isFinite {d : Float} : IsDelay d ↔ d.isFinite = true ∧ 0 < d := by
  have positive : 0 < d ↔ (.finite 0 : Wide ℚ) < value d := by
    rw [lt_iff, value_zero]
  rw [positive, Decimal.isFinite_iff]
  constructor
  · rintro ⟨x, number, x_pos⟩
    rw [number]
    exact ⟨⟨x, number⟩, Wide.finite_lt_finite.mpr x_pos⟩
  · rintro ⟨⟨x, number⟩, x_pos⟩
    have same : value d = .finite x := number
    rw [same, Wide.finite_lt_finite] at x_pos
    exact ⟨x, number, x_pos⟩

/-- A schedule that is read as an accepted one is accepted. -/
theorem refusal?_eq_none_of_wide {α : Type} [LT α] [LE α] [Mul α] [OfNat α 0] [OfNat α 1]
    [ReadsWide α ℚ] [DecidableLT α] [DecidableLE α] {p : PollPolicy Float} {q : PollPolicy α}
    (same : q.wide = p.wide) (accepted : p.refusal? = none) : q.refusal? = none := by
  have interval : value q.interval = value p.interval := congrArg PollPolicy.interval same
  have factor : value q.factor = value p.factor := congrArg PollPolicy.factor same
  refine refusal?_eq_none_iff.mpr ⟨fun zero => ?_, fun less => ?_⟩
  · rw [le_iff, value_zero, interval] at zero
    exact not_interval_le accepted zero
  · rw [lt_iff, value_one, factor] at less
    exact not_factor_lt accepted less

/-- Which accepted schedules can be used.  Their delays are all finite and positive exactly if the
interval is finite, the factor is a number, and there is a cap or the delays stay in the range
without one.  A wait on a network that stays pending, on an exact clock and with products that may
be rounded, times out exactly if the longest wait is below infinity, the interval is a number or
infinite, and so is the factor, unless the first delay passes the longest wait already. -/
theorem accepted_usable_iff {p : PollPolicy Float} (accepted : p.refusal? = none) :
    ((∀ k, (p.delay k).isFinite = true ∧ 0 < p.delay k) ↔
      p.interval.isFinite = true ∧ p.factor.isNaN = false ∧
        (p.IsCapped ∨ ∀ k, (p.uncut k).isFinite = true)) ∧
    ∀ {α : Type} [LT α] [LE α] [Add α] [Sub α] [Mul α] [OfNat α 0] [OfNat α 1] [AddsExactly α ℚ]
      [DecidableLT α] [DecidableLE α] (v : Vigil α) (limit : Float),
      v.policy.wide = p.wide → p.maxWait = some limit → v.StaysPending →
        (v.TimesOut ↔ value limit < .top ∧ p.interval.isNaN = false ∧
          (p.factor.isNaN = false ∨ v.IsLate (value limit) 0)) := by
  have number : ∀ x : Float, value x ≠ .nan ↔ x.isNaN = false :=
    fun x => Decimal.isNaN_iff.symm.not.trans (Bool.eq_false_iff).symm
  constructor
  · have delays := isDelay_iff accepted
    simp only [isDelay_iff_isFinite] at delays
    rw [delays]
    refine and_congr Decimal.isFinite_iff.symm (and_congr (number p.factor) (or_congr_right ?_))
    exact forall_congr' fun k => Decimal.isFinite_iff.symm
  · intro α _ _ _ _ _ _ _ _ _ _ v limit same limited pending
    have interval : value v.policy.interval = value p.interval :=
      congrArg PollPolicy.interval same
    have factor : value v.policy.factor = value p.factor := congrArg PollPolicy.factor same
    obtain ⟨limit', limited', read⟩ : ∃ l, v.policy.maxWait = some l ∧ value l = value limit := by
      have maxWait : v.policy.maxWait.map value = p.maxWait.map value :=
        congrArg PollPolicy.maxWait same
      rw [limited, Option.map_some] at maxWait
      exact Option.map_eq_some_iff.mp maxWait
    rw [pending.timesOut_iff_usable (refusal?_eq_none_of_wide same accepted) limited', interval,
      factor, read]
    exact and_congr_right fun _ =>
      and_congr (number p.interval) (or_congr_left (number p.factor))

/-- A wait on a network whose tree of the transaction never has a leaf, where each call takes a
given time. -/
def leaflessVigil {α : Type} [OfNat α 0] (time : α) (p : PollPolicy α) : Vigil α where
  settings := Settings.standard ⟨"/", ["run"]⟩
  transaction := "77"
  policy := p
  answers := fun _ => ⟨⟨time, false, .ok ⟨"", ""⟩⟩, ⟨time, false, .ok ⟨"", ""⟩⟩⟩
  start := 0
  stop := none
  seconds := fun _ => 0
  rounded := fun _ => ""

theorem staysPending_leaflessVigil {α : Type} [LT α] [LE α] [Add α] [Sub α] [Mul α] [OfNat α 0]
    [OfNat α 1] [AddsExactly α ℚ] [DecidableLT α] {time : α} {x : ℚ}
    (finite : value time = .finite x) (nonneg : 0 ≤ x) (p : PollPolicy α) :
    (leaflessVigil time p).StaysPending where
  start := ⟨0, value_zero⟩
  times := fun _ => ⟨⟨x, finite, nonneg⟩, x, finite, nonneg⟩
  pending := fun _ => ⟨.noLeaf, rfl, rfl⟩

/-- A schedule with an infinite factor: every delay but the first is at the cap. -/
def steepSchedule : PollPolicy Float where
  interval := 1
  factor := 1 / 0
  cap := 60
  maxWait := some 100

/-- Its delays can be used, and a wait with it gives up, with exact delays as with rounded ones. -/
theorem accepted_usable_sample :
    steepSchedule.refusal? = none ∧
      (∀ k, (steepSchedule.delay k).isFinite = true ∧ 0 < steepSchedule.delay k) ∧
      (leaflessVigil (.finite (1 / 2)) steepSchedule.wide).TimesOut ∧
      (leaflessVigil (.timed (.finite (1 / 2))) steepSchedule.scheduled).TimesOut ∧
      ∀ k, (leaflessVigil (.timed (.finite (1 / 2))) steepSchedule.scheduled).policy.delay k =
        .scheduled (steepSchedule.delay k) := by
  have accepted : steepSchedule.refusal? = none := by decide +kernel
  have interval : steepSchedule.interval.isFinite = true := by decide +kernel
  have present : steepSchedule.interval.isNaN = false := by decide +kernel
  have factor : steepSchedule.factor.isNaN = false := by decide +kernel
  have cap : value steepSchedule.cap < .top := by decide +kernel
  have limit : value (100 : Float) < .top := by decide +kernel
  have half : (0 : ℚ) ≤ 1 / 2 := by decide +kernel
  obtain ⟨delays, waits⟩ := accepted_usable_iff accepted
  refine ⟨accepted, delays.mpr ⟨interval, factor, .inl cap⟩, ?_, ?_, delay_scheduled _⟩
  · exact (waits _ 100 rfl rfl (staysPending_leaflessVigil rfl half _)).mpr
      ⟨limit, present, .inl factor⟩
  · exact (waits _ 100 rfl rfl (staysPending_leaflessVigil rfl half _)).mpr
      ⟨limit, present, .inl factor⟩

/-- A schedule with an interval that is no number. -/
def nanSchedule : PollPolicy Float where
  interval := 0 / 0
  factor := 1
  cap := 300
  maxWait := some 60

/-- It is accepted.  Its delays are not finite, and a wait with it does not time out. -/
theorem nan_interval_accepted :
    nanSchedule.refusal? = none ∧ (nanSchedule.delay 0).isFinite = false ∧
      ¬ (leaflessVigil (.timed (.finite (1 / 2))) nanSchedule.scheduled).TimesOut := by
  have accepted : nanSchedule.refusal? = none := by decide +kernel
  have half : (0 : ℚ) ≤ 1 / 2 := by decide +kernel
  have pending : (leaflessVigil (.timed (.finite (1 / 2))) nanSchedule.scheduled).StaysPending :=
    staysPending_leaflessVigil rfl half _
  have taken : nanSchedule.scheduled.refusal? = none := refusal?_eq_none_of_wide rfl accepted
  refine ⟨accepted, by decide +kernel, fun timesOut => ?_⟩
  have usable := (pending.timesOut_iff_usable taken rfl).mp timesOut
  exact usable.2.1 (by decide +kernel)

end PollPolicy

end ProofRelay
