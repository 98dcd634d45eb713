import Mathlib.Algebra.Order.Ring.Defs
import Mathlib.Algebra.Order.Ring.Int
import Mathlib.Algebra.Order.GroupWithZero.Basic
import ProofRelay.Poll.Policy

/-!
# Delays in exact arithmetic

A schedule is told by its recursion: the first delay is the interval, and each next one is a factor
longer, cut at a cap that is never below the interval.  In exact arithmetic the delays have a closed
form.  The cut of one delay does not show in the next one, since a delay at the cap is at the cap
again when it is made longer; so all cuts can be made at the end, and the delay after `k` polls is
the interval, made longer `k` times, or the cap if that is less.

What a wait needs of its schedule follows from the closed form: the delays never decrease, stay
between the interval and the cap, and stay at the cap once they are there.

## Main definitions

* `PollPolicy.ceiling` : the cap of a schedule, which is not below the interval.
* `PollPolicy.BacksOff` : what is said above.

## Main results

* `PollPolicy.delay_eq_min` : the closed form of the delays.
* `PollPolicy.delay_pos` : the delays of an accepted schedule are positive.
* `PollPolicy.backsOff_of_accepted` : every accepted schedule backs off.
-/

namespace ProofRelay.PollPolicy

/-! ### The two choices -/

section Choices

variable {α : Type} [LinearOrder α]

theorem lesser_eq_min (a b : α) : lesser a b = min a b := by
  rw [lesser]
  split
  · next less => exact (min_eq_right less.le).symm
  · next notLess => exact (min_eq_left (not_lt.mp notLess)).symm

theorem greater_eq_max (a b : α) : greater a b = max a b := by
  rw [greater]
  split
  · next less => exact (max_eq_right less.le).symm
  · next notLess => exact (max_eq_left (not_lt.mp notLess)).symm

/-- The cap of a schedule, which is not below the interval. -/
def ceiling (p : PollPolicy α) : α :=
  max p.cap p.interval

theorem interval_le_ceiling (p : PollPolicy α) : p.interval ≤ p.ceiling :=
  le_max_right p.cap p.interval

theorem nextDelay_eq_min [Mul α] (p : PollPolicy α) (delay : α) :
    p.nextDelay delay = min (delay * p.factor) p.ceiling := by
  rw [nextDelay, lesser_eq_min, greater_eq_max, ceiling]

end Choices

/-! ### Accepted schedules -/

/-- A schedule is accepted if neither of its two comparisons holds. -/
theorem refusal?_eq_none_iff {α : Type} [LT α] [DecidableLT α] [LE α] [DecidableLE α] [OfNat α 0]
    [OfNat α 1] {p : PollPolicy α} :
    p.refusal? = none ↔ ¬ p.interval ≤ 0 ∧ ¬ p.factor < 1 := by
  rw [refusal?]
  split
  · next notPositive => simp [notPositive]
  · next positive => split <;> simp [*]

section Accepted

variable {α : Type} [Semiring α] [LinearOrder α] {p : PollPolicy α}

theorem interval_pos (accepted : p.refusal? = none) : 0 < p.interval :=
  not_le.mp (refusal?_eq_none_iff.mp accepted).1

theorem one_le_factor (accepted : p.refusal? = none) : 1 ≤ p.factor :=
  not_lt.mp (refusal?_eq_none_iff.mp accepted).2

theorem ceiling_pos (accepted : p.refusal? = none) : 0 < p.ceiling :=
  (interval_pos accepted).trans_le p.interval_le_ceiling

end Accepted

/-! ### The delays -/

section Delays

variable {α : Type} [Semiring α] [LinearOrder α] [IsStrictOrderedRing α] {p : PollPolicy α}

/-- A delay that is cut and made longer is cut again where the same delay, uncut, would be. -/
theorem nextDelay_min (accepted : p.refusal? = none) (delay : α) :
    p.nextDelay (min delay p.ceiling) = min (delay * p.factor) p.ceiling := by
  have factor : 1 ≤ p.factor := one_le_factor accepted
  have factor_nonneg : 0 ≤ p.factor := zero_le_one.trans factor
  have longer : p.ceiling ≤ p.ceiling * p.factor :=
    le_mul_of_one_le_right (ceiling_pos accepted).le factor
  calc p.nextDelay (min delay p.ceiling)
      = min (min delay p.ceiling * p.factor) p.ceiling := p.nextDelay_eq_min _
    _ = min (min (delay * p.factor) (p.ceiling * p.factor)) p.ceiling := by
        rw [min_mul_of_nonneg _ _ factor_nonneg]
    _ = min (delay * p.factor) p.ceiling := by rw [min_assoc, min_eq_right longer]

/-- The delay after `k` polls is the interval, made longer `k` times, or the cap if that is
less. -/
theorem delay_eq_min (accepted : p.refusal? = none) (k : Nat) :
    p.delay k = min (p.interval * p.factor ^ k) p.ceiling := by
  induction k with
  | zero =>
    show p.interval = _
    rw [pow_zero, mul_one, min_eq_left p.interval_le_ceiling]
  | succ k ih =>
    show p.nextDelay (p.delay k) = _
    rw [ih, nextDelay_min accepted, pow_succ, mul_assoc]

theorem delay_monotone (accepted : p.refusal? = none) : Monotone p.delay := by
  intro j k before
  have powers : p.factor ^ j ≤ p.factor ^ k := pow_le_pow_right₀ (one_le_factor accepted) before
  rw [delay_eq_min accepted, delay_eq_min accepted]
  exact min_le_min_right _ (mul_le_mul_of_nonneg_left powers (interval_pos accepted).le)

theorem interval_le_delay (accepted : p.refusal? = none) (k : Nat) : p.interval ≤ p.delay k :=
  delay_monotone accepted k.zero_le

theorem delay_le_ceiling (accepted : p.refusal? = none) (k : Nat) : p.delay k ≤ p.ceiling := by
  rw [delay_eq_min accepted]
  exact min_le_right _ _

/-- The delays of an accepted schedule are positive. -/
theorem delay_pos (accepted : p.refusal? = none) (k : Nat) : 0 < p.delay k :=
  (interval_pos accepted).trans_le (interval_le_delay accepted k)

/-- What the delays of a schedule are like. -/
structure BacksOff (p : PollPolicy α) : Prop where
  /-- The interval is made longer by the factor each time, up to the cap. -/
  closed : ∀ k, p.delay k = min (p.interval * p.factor ^ k) (max p.cap p.interval)
  /-- The delays never decrease. -/
  grows : Monotone p.delay
  /-- They stay between the interval and the cap. -/
  within : ∀ k, p.interval ≤ p.delay k ∧ p.delay k ≤ max p.cap p.interval
  /-- They stay as they are from the first one that reaches the cap. -/
  settles : ∀ j, max p.cap p.interval ≤ p.delay j → ∀ k, j ≤ k → p.delay k = p.delay j

/-- Every accepted schedule backs off. -/
theorem backsOff_of_accepted (accepted : p.refusal? = none) : p.BacksOff where
  closed := delay_eq_min accepted
  grows := delay_monotone accepted
  within := fun k => ⟨interval_le_delay accepted k, delay_le_ceiling accepted k⟩
  settles := by
    intro j reached k later
    have least : p.delay j ≤ p.delay k := delay_monotone accepted later
    have most : p.delay k ≤ p.delay j := (delay_le_ceiling accepted k).trans reached
    exact le_antisymm most least

end Delays

/-- A schedule of whole seconds that doubles its delay, with a cap that is no power of two times the
interval. -/
def doubling : PollPolicy Int where
  interval := 3
  factor := 2
  cap := 20
  maxWait := none

/-- It is at its cap from the fourth delay on. -/
theorem backsOff_doubling : doubling.refusal? = none ∧ doubling.BacksOff ∧
    (List.range 5).map doubling.delay = [3, 6, 12, 20, 20] := by
  have accepted : doubling.refusal? = none := by decide
  exact ⟨accepted, backsOff_of_accepted accepted, by decide⟩

end ProofRelay.PollPolicy
