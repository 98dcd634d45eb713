import Mathlib.Algebra.Order.Ring.Defs
import Mathlib.Algebra.Order.GroupWithZero.Basic

/-!
# Numbers with infinities

The numbers that a text can write are those of a range, an infinity at both of its ends, and a
value that is no number.  Numbers and infinities are in order.  The value that is no number
compares false with everything, itself included, so that a number may fail to be at most a bound
without being above it.  It is also what any arithmetic with it gives.

Other types of numbers are read as these.  What is asked of their products is little: the value
that is no number stays so, and what is at least a positive number stays so when it is not made
shorter.  This is so for exact products as for products that are rounded.  Where times are measured,
their sums and differences are exact besides.

## Main definitions

* `Wide`, `Wide.order?` : numbers with infinities and the value that is no number, and their order.
* `Wide.AtLeast` : the numbers from a number on, with the infinity above them.
* `ReadsWide`, `AddsExactly` : types of numbers that are read as these, and those whose sums and
  differences are exact.

## Main results

* `Wide.not_lt_nan`, `Wide.not_nan_lt` : the value that is no number compares false.
* `Wide.finite_or_top_of_not_le`, `Wide.finite_or_top_of_not_lt` : what is left of the numbers that
  fail a comparison, besides the value that is no number.
-/

namespace ProofRelay

/-- Numbers, with an infinity at both ends, and the value that is no number. -/
inductive Wide (K : Type) where
  /-- A number. -/
  | finite (x : K)
  /-- The infinity below all numbers. -/
  | bottom
  /-- The infinity above all numbers. -/
  | top
  /-- The value that is no number. -/
  | nan
  deriving DecidableEq

namespace Wide

variable {K : Type}

/-! ### Order -/

section Order

variable [LinearOrder K] {x y : K} {a b : Wide K}

/-- The order of two, unless one of them is no number. -/
def order? : Wide K → Wide K → Option Ordering
  | nan, _ | _, nan => none
  | finite x, finite y => some (compare x y)
  | bottom, bottom | top, top => some .eq
  | bottom, _ | _, top => some .lt
  | top, _ | _, bottom => some .gt

instance : LT (Wide K) := ⟨fun a b => a.order? b = some .lt⟩

instance : LE (Wide K) := ⟨fun a b => (a.order? b).any (·.isLE) = true⟩

instance : DecidableLT (Wide K) := fun a b => inferInstanceAs (Decidable (a.order? b = some .lt))

instance : DecidableLE (Wide K) := fun a b =>
  inferInstanceAs (Decidable ((a.order? b).any (·.isLE) = true))

@[simp] theorem finite_lt_finite : finite x < finite y ↔ x < y :=
  (Option.some_inj).trans compare_lt_iff_lt

@[simp] theorem finite_le_finite : finite x ≤ finite y ↔ x ≤ y :=
  Ordering.isLE_iff_ne_gt.trans compare_le_iff_le

@[simp] theorem bottom_lt_finite : bottom < finite x := rfl

@[simp] theorem finite_lt_top : finite x < top := rfl

@[simp] theorem bottom_lt_top : bottom < (top : Wide K) := rfl

/-- Nothing is above the upper infinity. -/
@[simp] theorem not_top_lt : ¬ top < a := by
  cases a <;> nofun

/-- The value that is no number is less than nothing. -/
@[simp] theorem not_nan_lt : ¬ nan < a := by
  cases a <;> nofun

/-- Nothing is less than the value that is no number. -/
@[simp] theorem not_lt_nan : ¬ a < nan := by
  cases a <;> nofun

@[simp] theorem bottom_le_finite : bottom ≤ finite x := rfl

/-- Below the upper infinity are the numbers and the other infinity. -/
theorem lt_top_iff : a < top ↔ a = bottom ∨ ∃ x, a = finite x := by
  cases a <;> simp

theorem lt_top_of_lt (less : a < b) : a < top := by
  cases a with
  | finite | bottom => rfl
  | top => exact absurd less not_top_lt
  | nan => exact absurd less not_nan_lt

/-- What is not at most a number is a greater one, the upper infinity, or no number. -/
theorem finite_or_top_of_not_le (h : ¬ a ≤ finite x) (number : a ≠ nan) :
    (∃ y, a = finite y ∧ x < y) ∨ a = top := by
  cases a with
  | finite y => exact .inl ⟨y, rfl, not_le.mp fun le => h (finite_le_finite.mpr le)⟩
  | bottom => exact absurd bottom_le_finite h
  | top => exact .inr rfl
  | nan => exact absurd rfl number

/-- What is not less than a number is one from there on, the upper infinity, or no number. -/
theorem finite_or_top_of_not_lt (h : ¬ a < finite x) (number : a ≠ nan) :
    (∃ y, a = finite y ∧ x ≤ y) ∨ a = top := by
  cases a with
  | finite y => exact .inl ⟨y, rfl, not_lt.mp fun lt => h (finite_lt_finite.mpr lt)⟩
  | bottom => exact absurd bottom_lt_finite h
  | top => exact .inr rfl
  | nan => exact absurd rfl number

/-- The numbers from a number on, and the infinity above them. -/
def AtLeast (x : K) (a : Wide K) : Prop :=
  a = top ∨ ∃ y, a = finite y ∧ x ≤ y

theorem atLeast_finite : AtLeast x (finite y) ↔ x ≤ y := by
  simp [AtLeast]

theorem AtLeast.trans (h : AtLeast y a) (less : x ≤ y) : AtLeast x a :=
  h.imp id fun ⟨z, same, atLeast⟩ => ⟨z, same, less.trans atLeast⟩

/-- A bound below a number is below all that are at least that number. -/
theorem AtLeast.lt_of_lt (h : AtLeast x a) (less : b < finite x) : b < a := by
  rcases h with rfl | ⟨y, rfl, atLeast⟩
  · cases b with
    | finite | bottom => trivial
    | top => exact absurd less not_top_lt
    | nan => exact absurd less not_nan_lt
  · cases b with
    | finite z => exact finite_lt_finite.mpr ((finite_lt_finite.mp less).trans_le atLeast)
    | bottom => trivial
    | top => exact absurd less not_top_lt
    | nan => exact absurd less not_nan_lt

end Order

/-! ### Arithmetic -/

section Arithmetic

variable [Ring K] [LinearOrder K] {x y : K} {a b : Wide K}

instance : OfNat (Wide K) 0 := ⟨finite 0⟩

instance : OfNat (Wide K) 1 := ⟨finite 1⟩

instance : Neg (Wide K) where
  neg
    | finite x => finite (-x)
    | bottom => top
    | top => bottom
    | nan => nan

instance : Add (Wide K) where
  add
    | finite x, finite y => finite (x + y)
    | nan, _ | _, nan | bottom, top | top, bottom => nan
    | bottom, _ | _, bottom => bottom
    | top, _ | _, top => top

instance : Sub (Wide K) := ⟨fun a b => a + -b⟩

/-- The product with the upper infinity. -/
def ofTop : Wide K → Wide K
  | finite x => if 0 < x then top else if x < 0 then bottom else nan
  | bottom => bottom
  | top => top
  | nan => nan

instance : Mul (Wide K) where
  mul
    | finite x, finite y => finite (x * y)
    | nan, _ | _, nan => nan
    | top, a | a, top => ofTop a
    | bottom, a | a, bottom => -ofTop a

omit [LinearOrder K] in
@[simp] theorem finite_add_finite : finite x + finite y = finite (x + y) := rfl

omit [LinearOrder K] in
@[simp] theorem finite_sub_finite : finite x - finite y = finite (x - y) :=
  congrArg finite (sub_eq_add_neg x y).symm

omit [LinearOrder K] in
@[simp] theorem finite_add_top : finite x + top = top := rfl

omit [LinearOrder K] in
/-- A sum with the value that is no number is none. -/
@[simp] theorem add_nan (a : Wide K) : a + nan = nan := by
  cases a <;> rfl

/-- A product with the value that is no number is none. -/
@[simp] theorem mul_nan (a : Wide K) : a * nan = nan := by
  cases a <;> rfl

@[simp] theorem nan_mul (a : Wide K) : nan * a = nan := by
  cases a <;> rfl

theorem finite_mul_top (positive : 0 < x) : finite x * top = top :=
  if_pos positive

theorem top_mul_finite (positive : 0 < x) : top * finite x = top :=
  if_pos positive

theorem top_mul_top : top * top = (top : Wide K) := rfl

end Arithmetic

end Wide

/-! ### Types of numbers that are read so -/

/-- Types of numbers that are read as numbers with infinities: they are compared as these are, and
their products, which may be rounded, do not make a positive number less by a factor of one or
more. -/
class ReadsWide (α : Type) (K : outParam Type) [LinearOrder K] [Zero K] [One K] [LT α] [LE α]
    [Mul α] [OfNat α 0] [OfNat α 1] where
  /-- What a number is read as. -/
  value : α → Wide K
  /-- Less is less. -/
  lt_iff : ∀ a b : α, a < b ↔ value a < value b
  /-- At most is at most. -/
  le_iff : ∀ a b : α, a ≤ b ↔ value a ≤ value b
  /-- Nothing is nothing. -/
  value_zero : value 0 = .finite 0
  /-- One is one. -/
  value_one : value 1 = .finite 1
  /-- A product of what is no number is none. -/
  value_nan_mul : ∀ a b : α, value a = .nan → value (a * b) = .nan
  /-- A product with a factor that is no number is none. -/
  value_mul_of_nan : ∀ a b : α, value b = .nan → value (a * b) = .nan
  /-- A product of what is at least a positive number with a factor that is not below one is at
  least that number. -/
  atLeast_mul : ∀ (a b : α) (x : K), (value a).AtLeast x → 0 < x → value b ≠ .nan →
    ¬ value b < .finite 1 → (value (a * b)).AtLeast x

/-- Types of numbers that are read so and whose sums and differences are exact. -/
class AddsExactly (α : Type) (K : outParam Type) [Ring K] [LinearOrder K] [LT α] [LE α] [Mul α]
    [OfNat α 0] [OfNat α 1] [Add α] [Sub α] extends ReadsWide α K where
  /-- A sum is the sum. -/
  value_add : ∀ a b : α, value (a + b) = value a + value b
  /-- A difference is the difference. -/
  value_sub : ∀ a b : α, value (a - b) = value a - value b

section Exact

variable {K : Type} [Ring K] [LinearOrder K] [IsStrictOrderedRing K]

/-- An exact product of what is at least a positive number. -/
theorem Wide.atLeast_mul {a b : Wide K} {x : K} (atLeast : a.AtLeast x) (positive : 0 < x)
    (number : b ≠ .nan) (notLess : ¬ b < .finite 1) : (a * b).AtLeast x := by
  rcases atLeast with rfl | ⟨y, rfl, least⟩ <;>
    rcases finite_or_top_of_not_lt notLess number with ⟨z, rfl, one⟩ | rfl
  · exact .inl (top_mul_finite (zero_lt_one.trans_le one))
  · exact .inl top_mul_top
  · exact atLeast_finite.mpr
      (least.trans (le_mul_of_one_le_right (positive.le.trans least) one))
  · exact .inl (finite_mul_top (positive.trans_le least))

/-- Exact numbers are read as they are. -/
instance : AddsExactly (Wide K) K where
  value := id
  lt_iff _ _ := Iff.rfl
  le_iff _ _ := Iff.rfl
  value_zero := rfl
  value_one := rfl
  value_nan_mul _ b same := (congrArg (· * b) same).trans b.nan_mul
  value_mul_of_nan a _ same := (congrArg (a * ·) same).trans a.mul_nan
  atLeast_mul _ _ _ := Wide.atLeast_mul
  value_add _ _ := rfl
  value_sub _ _ := rfl

end Exact

end ProofRelay
