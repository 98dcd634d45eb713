import ProofRelay.Proofs.Decimal.Dyadic

/-!
# Products of floating-point numbers

A product is computed exactly and then rounded: the significand is cut to its length, the cut part
decides whether it is made greater by one, and it is shifted once more if it has become too long by
that.  Rounding may make a number less.  It does not make it less than any number in the form that
is unpacked which was not greater before, so that a positive number times one or more is at least
what it was, or has left the range.

## Main results

* `exists_round_eq` : rounding does not pass a number.
* `atLeast_wideValue_mul` : a product with a factor that is not below one.
-/

namespace ProofRelay.Decimal

open Float.Model UnpackedFloat

variable {m n : Nat} {e f : Int}

/-! ### Rounding -/

/-- What is left of a significand after a shift. -/
theorem mantissa_shift (m k : Nat) :
    ((ExtendedMantissa.ofMantissaAndAccuracy m .exact) >>> k).mantissa = m / 2 ^ k := by
  induction k with
  | zero => simp only [Nat.pow_zero, Nat.div_one]; rfl
  | succ k ih =>
    show ((ExtendedMantissa.ofMantissaAndAccuracy m .exact) >>> k).mantissa / 2 = _
    rw [ih, Nat.div_div_eq_div_mul, Nat.pow_succ]

theorem roundedMantissa_mem (em : ExtendedMantissa) :
    em.mantissa ≤ em.roundedMantissa ∧ em.roundedMantissa ≤ em.mantissa + 1 := by
  obtain ⟨m, _ | _, _ | _⟩ := em <;>
    simp only [ExtendedMantissa.roundedMantissa, ExtendedMantissa.accuracy,
      Accuracy.roundToNearestEven] <;> omega

/-- A significand is shifted by as many bits as its exponent is below the one that it should have.
-/
theorem shiftToTargetExponent_eq {m k : Nat} {e : Int}
    (shift : (max (m.log2 + 1 + e - 53) (-1074) - e).toNat = k) :
    shiftToTargetExponent .binary64 m e .exact =
      (ExtendedMantissa.ofMantissaAndAccuracy m .exact >>> k, e + k) := by
  subst shift
  rfl

/-- A significand that is long enough is cut to one that is as long as it should be. -/
theorem exists_shift_eq {m : Nat} (long : 2 ^ 52 ≤ m) (e : Int) : ∃ k : Nat,
    shiftToTargetExponent .binary64 m e .exact =
        (ExtendedMantissa.ofMantissaAndAccuracy m .exact >>> k, e + k) ∧
      InBand (m / 2 ^ k) (e + k) := by
  have m_ne_zero : m ≠ 0 := by omega
  have log : 52 ≤ m.log2 := (Nat.le_log2 m_ne_zero).mpr long
  have lower : 2 ^ m.log2 ≤ m := Nat.log2_self_le m_ne_zero
  have upper : m < 2 ^ (m.log2 + 1) := Nat.lt_log2_self
  obtain ⟨k, shift⟩ : ∃ k, (max (m.log2 + 1 + e - 53) (-1074) - e).toNat = k := ⟨_, rfl⟩
  refine ⟨k, shiftToTargetExponent_eq shift, ?short, by omega, ?full⟩
  case short =>
    rw [Nat.div_lt_iff_lt_mul (Nat.two_pow_pos k), ← Nat.pow_add]
    exact upper.trans_le (Nat.pow_le_pow_right two_pos (by omega))
  case full =>
    rcases le_or_gt (m.log2 + 1 + e - 53) (-1074) with least | greater
    · exact .inr (by omega)
    · left
      rw [Nat.le_div_iff_mul_le (Nat.two_pow_pos k), ← Nat.pow_add]
      have whole : 52 + k = m.log2 := by omega
      rw [whole]
      exact lower

/-- What is cut off a number does not make it less than one that it was not less than. -/
theorem InBand.dyadic_le_shift (h : InBand m e) {k : Nat} (cut : InBand (n / 2 ^ k) (f + k))
    (atMost : dyadic m e ≤ dyadic n f) : dyadic m e ≤ dyadic (n / 2 ^ k) (f + k) := by
  -- With a smaller exponent it is less anyway; otherwise it has no bits where the cut is made.
  rcases lt_or_ge e (f + k) with less | atLeast
  · exact (h.dyadic_lt cut less).le
  · obtain ⟨j, rfl⟩ : ∃ j : Nat, e = f + k + j := ⟨(e - (f + k)).toNat, by omega⟩
    rw [← dyadic_mul_pow, dyadic_le_iff, Nat.le_div_iff_mul_le (Nat.two_pow_pos k)]
    rwa [← dyadic_mul_pow, ← dyadic_mul_pow, dyadic_le_iff] at atMost

/-- A significand that is one too great after it was rounded is shifted once more. -/
theorem exists_shift_eq_of_rounded {m : Nat} (most : m ≤ 2 ^ 53) {e : Int} (least : -1074 ≤ e)
    (full : 2 ^ 52 ≤ m ∨ e = -1074) : ∃ k : Nat,
    shiftToTargetExponent .binary64 m e .exact =
        (ExtendedMantissa.ofMantissaAndAccuracy m .exact >>> k, e + k) ∧
      InBand (m / 2 ^ k) (e + k) ∧ dyadic (m / 2 ^ k) (e + k) = dyadic m e := by
  rcases Nat.lt_or_eq_of_le most with short | rfl
  · have log : m.log2 < 53 := by
      rcases Nat.eq_zero_or_pos m with rfl | positive
      · decide
      · exact (Nat.log2_lt positive.ne').mpr short
    refine ⟨0, shiftToTargetExponent_eq (by omega), ?_, ?_⟩
    · simpa using ⟨short, least, full⟩
    · simp
  · have log : (2 ^ 53 : Nat).log2 = 53 := Nat.log2_two_pow
    refine ⟨1, shiftToTargetExponent_eq (by rw [log]; omega), ⟨by decide, by omega, .inl ?_⟩, ?_⟩
    · decide
    · exact (dyadic_mul_pow (2 ^ 52) 1 e).symm

/-- Rounding gives a number that is not less than any number that was not greater before. -/
theorem exists_round_eq (s : Sign) (long : 2 ^ 52 ≤ n) (positive : 0 < m) (h : InBand m e)
    (atMost : dyadic m e ≤ dyadic n f) :
    ∃ r t, ∃ r_pos : 0 < r, roundWithAccuracy .binary64 s n f .exact = .finite s r t r_pos ∧
      InBand r t ∧ dyadic m e ≤ dyadic r t := by
  obtain ⟨k, first, cut⟩ := exists_shift_eq long f
  -- The cut significand is the least that the rounded one can be.
  have below := h.dyadic_le_shift cut atMost
  generalize shifted : ExtendedMantissa.ofMantissaAndAccuracy n .exact >>> k = em at first
  obtain ⟨up, upOne⟩ := roundedMantissa_mem em
  rw [← shifted, mantissa_shift, shifted] at up upOne
  have most : em.roundedMantissa ≤ 2 ^ 53 := upOne.trans cut.short
  obtain ⟨j, second, final, same⟩ := exists_shift_eq_of_rounded most cut.least
    (cut.full.imp_left up.trans')
  have least : dyadic m e ≤ dyadic (em.roundedMantissa / 2 ^ j) (f + k + j) := by
    rw [same]
    exact below.trans (dyadic_le_iff.mpr up)
  have r_pos : 0 < em.roundedMantissa / 2 ^ j := by
    refine Nat.pos_of_ne_zero fun zero => ?_
    have nothing : dyadic 0 (f + k + j) = 0 := by simp [dyadic]
    rw [zero, nothing] at least
    exact absurd (dyadic_pos positive) (not_lt.mpr least)
  refine ⟨_, _, r_pos, ?_, final, least⟩
  rw [roundWithAccuracy]
  simp only [first, second, mantissa_shift, dif_neg r_pos.ne']

/-! ### Products -/

theorem dyadic_mul (m n : Nat) (e f : Int) :
    dyadic (m * n) (e + f) = dyadic m e * dyadic n f := by
  rw [dyadic, dyadic, dyadic, zpow_add₀ two_ne_zero, Nat.cast_mul]
  ring

/-- A number from one on has all bits of its significand. -/
theorem InBand.full_of_one_le (h : InBand m e) (atLeast : 1 ≤ dyadic m e) : 2 ^ 52 ≤ m := by
  refine h.full.resolve_right fun least => not_lt.mpr atLeast ?_
  calc dyadic m e < dyadic (2 ^ 52) (-52) := dyadic_lt_of_lt h.short le_rfl (by omega)
    _ = 1 := by norm_num [dyadic]

/-- What an unpacked number stands for after it was packed. -/
def packedValue (u : UnpackedFloat) : Wide ℚ :=
  unpackedValue (UnpackedFloat.unpack .binary64 (UnpackedFloat.pack .binary64 u))

theorem packedValue_notANumber : packedValue .notANumber = .nan := rfl

theorem packedValue_infinity : packedValue (.infinity .positive) = .top := rfl

/-- A product is packed. -/
theorem wideValue_mul (x y : Float) : wideValue (x * y) =
    packedValue (UnpackedFloat.mul .binary64 x.toModel.unpack y.toModel.unpack) := rfl

/-- A product of positive numbers, the second of them from one on, is not less than the first. -/
theorem atLeast_mul_finite (m_pos : 0 < m) (n_pos : 0 < n) (h : InBand m e) (h' : InBand n f)
    (atLeast : 1 ≤ dyadic n f) : (packedValue (UnpackedFloat.mul .binary64
      (.finite .positive m e m_pos) (.finite .positive n f n_pos))).AtLeast (dyadic m e) := by
  have long : 2 ^ 52 ≤ m * n :=
    (h'.full_of_one_le atLeast).trans (Nat.le_mul_of_pos_left n m_pos)
  have atMost : dyadic m e ≤ dyadic (m * n) (e + f) := by
    rw [dyadic_mul]
    exact le_mul_of_one_le_right (dyadic_pos m_pos).le atLeast
  obtain ⟨r, t, r_pos, rounded, band, least⟩ := exists_round_eq .positive long m_pos h atMost
  have product : UnpackedFloat.mul .binary64 (.finite .positive m e m_pos)
      (.finite .positive n f n_pos) = .finite .positive r t r_pos := rounded
  rw [product, packedValue]
  rcases le_or_gt t 971 with inRange | greater
  · rw [unpack_pack_finite r_pos band inRange]
    exact .inr ⟨_, rfl, least⟩
  · rw [pack_finite_of_lt r_pos greater]
    exact .inl rfl

/-- A product of what is no number is none. -/
theorem wideValue_nan_mul (x y : Float) (nan : wideValue x = .nan) : wideValue (x * y) = .nan := by
  have product : UnpackedFloat.mul .binary64 .notANumber y.toModel.unpack = .notANumber := rfl
  rw [wideValue_mul, unpackedValue_eq_nan_iff.mp nan, product, packedValue_notANumber]

/-- A product with a factor that is no number is none. -/
theorem wideValue_mul_of_nan (x y : Float) (nan : wideValue y = .nan) :
    wideValue (x * y) = .nan := by
  have product : UnpackedFloat.mul .binary64 x.toModel.unpack .notANumber = .notANumber := by
    cases x.toModel.unpack <;> rfl
  rw [wideValue_mul, unpackedValue_eq_nan_iff.mp nan, product, packedValue_notANumber]

/-- A product of a positive number with a factor that is not below one is not less than that
number. -/
theorem atLeast_wideValue_mul_finite (x y : Float) (q : ℚ) (finite : wideValue x = .finite q)
    (positive : 0 < q) (number : wideValue y ≠ .nan) (notLess : ¬ wideValue y < .finite 1) :
    (wideValue (x * y)).AtLeast q := by
  have left : Canonical x.toModel.unpack := canonical_toModel x
  have right : Canonical y.toModel.unpack := canonical_toModel y
  obtain ⟨m, e, m_pos, unpacked, rfl⟩ := unpackedValue_eq_finite positive finite
  rw [unpacked] at left
  rw [wideValue_mul, unpacked]
  rcases Wide.finite_or_top_of_not_lt notLess number with ⟨z, factor, atLeast⟩ | top
  · obtain ⟨n, f, n_pos, unpacked', rfl⟩ :=
      unpackedValue_eq_finite (zero_lt_one.trans_le atLeast) factor
    rw [unpacked'] at right
    rw [unpacked']
    exact atLeast_mul_finite m_pos n_pos left.1 right.1 atLeast
  · have product : UnpackedFloat.mul .binary64 (.finite .positive m e m_pos) (.infinity .positive) =
        .infinity .positive := rfl
    rw [unpackedValue_eq_top_iff.mp top, product, packedValue_infinity]
    exact .inl rfl

/-- A product of the upper infinity with a factor that is not below one is this infinity. -/
theorem wideValue_top_mul (x y : Float) (top : wideValue x = .top) (number : wideValue y ≠ .nan)
    (notLess : ¬ wideValue y < .finite 1) : wideValue (x * y) = .top := by
  rw [wideValue_mul, unpackedValue_eq_top_iff.mp top]
  rcases Wide.finite_or_top_of_not_lt notLess number with ⟨z, factor, atLeast⟩ | top
  · obtain ⟨n, f, n_pos, unpacked, rfl⟩ :=
      unpackedValue_eq_finite (zero_lt_one.trans_le atLeast) factor
    rw [unpacked]
    exact packedValue_infinity
  · rw [unpackedValue_eq_top_iff.mp top]
    exact packedValue_infinity

/-- What is at least a positive number stays so with a factor that is not below one. -/
theorem atLeast_wideValue_mul (x y : Float) (q : ℚ) (atLeast : (wideValue x).AtLeast q)
    (positive : 0 < q) (number : wideValue y ≠ .nan) (notLess : ¬ wideValue y < .finite 1) :
    (wideValue (x * y)).AtLeast q := by
  rcases atLeast with top | ⟨r, finite, least⟩
  · exact .inl (wideValue_top_mul x y top number notLess)
  · exact (atLeast_wideValue_mul_finite x y r finite (positive.trans_le least) number notLess).trans
      least

/-- Floating-point numbers are read as the numbers that they stand for. -/
instance : ReadsWide Float ℚ where
  value := wideValue
  lt_iff := wideValue_lt_iff
  le_iff := wideValue_le_iff
  value_zero := by decide +kernel
  value_one := by decide +kernel
  value_nan_mul := wideValue_nan_mul
  value_mul_of_nan := wideValue_mul_of_nan
  atLeast_mul := atLeast_wideValue_mul

end ProofRelay.Decimal
