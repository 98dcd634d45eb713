import ProofRelay.Poll.Policy
import ProofRelay.Proofs.Decimal.Products

/-!
# Rounded delays on an exact clock

The delays of a schedule are products of floating-point numbers and are rounded as these are.  The
times that a wait measures are no such products, and they may be told exactly.  A duration is one of
the two: what a schedule gives, multiplied as floating-point numbers are, or a time, which is a
number without rounding.  Both are read as the numbers that they stand for, so that they can be
added and compared.

## Main definitions

* `Duration` : rounded delays and exact times.
* `PollPolicy.scheduled` : a schedule of floating-point numbers that gives durations.

## Main results

* `PollPolicy.delay_scheduled` : its delays are the delays of the schedule.
-/

namespace ProofRelay

/-- A duration: a floating-point number, or a time without rounding. -/
inductive Duration where
  /-- What a schedule gives. -/
  | scheduled (x : Float)
  /-- A time. -/
  | timed (t : Wide ℚ)

namespace Duration

/-- What a duration stands for. -/
def toWide : Duration → Wide ℚ
  | scheduled x => ReadsWide.value x
  | timed t => t

instance : LT Duration := ⟨fun a b => a.toWide < b.toWide⟩

instance : LE Duration := ⟨fun a b => a.toWide ≤ b.toWide⟩

instance : DecidableLT Duration := fun a b => inferInstanceAs (Decidable (a.toWide < b.toWide))

instance : DecidableLE Duration := fun a b => inferInstanceAs (Decidable (a.toWide ≤ b.toWide))

instance : OfNat Duration 0 := ⟨scheduled 0⟩

instance : OfNat Duration 1 := ⟨scheduled 1⟩

instance : Add Duration := ⟨fun a b => timed (a.toWide + b.toWide)⟩

instance : Sub Duration := ⟨fun a b => timed (a.toWide - b.toWide)⟩

/-- A product of what a schedule gives is rounded. -/
instance : Mul Duration where
  mul
    | scheduled x, scheduled y => scheduled (x * y)
    | a, b => timed (a.toWide * b.toWide)

/-- A product is one of floating-point numbers, or exact. -/
theorem toWide_mul (a b : Duration) :
    (∃ x y, a = scheduled x ∧ b = scheduled y ∧
      (a * b).toWide = ReadsWide.value (x * y)) ∨ (a * b).toWide = a.toWide * b.toWide := by
  cases a with
  | scheduled x =>
    cases b with
    | scheduled y => exact .inl ⟨x, y, rfl, rfl, rfl⟩
    | timed t => exact .inr rfl
  | timed t => cases b <;> exact .inr rfl

/-- Durations are read as what they stand for. -/
instance : AddsExactly Duration ℚ where
  value := toWide
  lt_iff _ _ := Iff.rfl
  le_iff _ _ := Iff.rfl
  value_zero := ReadsWide.value_zero (α := Float)
  value_one := ReadsWide.value_one (α := Float)
  value_nan_mul a b nan := by
    rcases toWide_mul a b with ⟨x, y, rfl, rfl, product⟩ | product <;> rw [product]
    · exact ReadsWide.value_nan_mul x y nan
    · rw [nan, Wide.nan_mul]
  value_mul_of_nan a b nan := by
    rcases toWide_mul a b with ⟨x, y, rfl, rfl, product⟩ | product <;> rw [product]
    · exact ReadsWide.value_mul_of_nan x y nan
    · rw [nan, Wide.mul_nan]
  atLeast_mul a b least atLeast positive number notLess := by
    rcases toWide_mul a b with ⟨x, y, rfl, rfl, product⟩ | product <;> rw [product]
    · exact ReadsWide.atLeast_mul x y least atLeast positive number notLess
    · exact Wide.atLeast_mul atLeast positive number notLess
  value_add _ _ := rfl
  value_sub _ _ := rfl

end Duration

namespace PollPolicy

/-- A schedule of floating-point numbers that gives durations. -/
def scheduled (p : PollPolicy Float) : PollPolicy Duration where
  interval := .scheduled p.interval
  factor := .scheduled p.factor
  cap := .scheduled p.cap
  maxWait := p.maxWait.map .scheduled

/-- Its delays are the delays of the schedule, rounded as these are. -/
theorem delay_scheduled (p : PollPolicy Float) (k : Nat) :
    p.scheduled.delay k = .scheduled (p.delay k) := by
  have less : ∀ x y : Float, Duration.scheduled x < .scheduled y ↔ x < y :=
    fun x y => (ReadsWide.lt_iff x y).symm
  have lesser_eq : ∀ x y, lesser (Duration.scheduled x) (.scheduled y) =
      .scheduled (lesser x y) := by
    intro x y
    simp only [lesser, less]
    split <;> rfl
  have greater_eq : ∀ x y, greater (Duration.scheduled x) (.scheduled y) =
      .scheduled (greater x y) := by
    intro x y
    simp only [greater, less]
    split <;> rfl
  induction k with
  | zero => rfl
  | succ k ih =>
    have product : Duration.scheduled (p.delay k) * .scheduled p.factor =
        .scheduled (p.delay k * p.factor) := rfl
    rw [delay, delay, ih, nextDelay, nextDelay, scheduled, product, greater_eq, lesser_eq]

end PollPolicy

end ProofRelay
