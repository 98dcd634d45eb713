import Mathlib
import ProofRelay.Proofs.Decimal.WideNumbers

/-!
# Floating-point numbers as numbers with infinities

A floating-point number is unpacked to a significand and a power of two, unless it is zero, an
infinity or the value that is no number.  A number may be written so in several ways, of which one
is unpacked: the one with the least exponent there is, or with a significand that has all of its
bits.  Numbers in this form are compared by their exponents first, and only then by their
significands; this is the order of the numbers that they stand for.

## Main definitions

* `dyadic`, `InBand` : the numbers with a significand and an exponent, and the ones that are
  unpacked.
* `unpackedValue`, `wideValue` : what an unpacked number and a number stand for.

## Main results

* `compare_dyadic` : numbers in this form are compared by their exponents first.
* `canonical_unpack`, `unpack_pack_finite` : what is unpacked, and what is unpacked again.
* `wideValue_lt_iff`, `wideValue_le_iff` : numbers are compared by what they stand for.
-/

namespace ProofRelay.Decimal

open Float.Model UnpackedFloat

/-! ### Significands and exponents -/

/-- The size of a finite number. -/
def dyadic (m : Nat) (e : Int) : ℚ :=
  m * 2 ^ e

/-- A significand and an exponent of a finite number: the exponent is the least one, or the
significand has all of its bits. -/
structure InBand (m : Nat) (e : Int) : Prop where
  /-- The significand is short enough. -/
  short : m < 2 ^ 53
  /-- The exponent is not too small. -/
  least : -1074 ≤ e
  /-- The significand is not shorter than it has to be. -/
  full : 2 ^ 52 ≤ m ∨ e = -1074

variable {m n : Nat} {e f : Int}

theorem dyadic_pos (positive : 0 < m) : 0 < dyadic m e :=
  mul_pos (Nat.cast_pos.mpr positive) (zpow_pos two_pos e)

theorem dyadic_lt_iff : dyadic m e < dyadic n e ↔ m < n := by
  rw [dyadic, dyadic, mul_lt_mul_iff_left₀ (zpow_pos two_pos e), Nat.cast_lt]

theorem dyadic_le_iff : dyadic m e ≤ dyadic n e ↔ m ≤ n := by
  rw [dyadic, dyadic, mul_le_mul_iff_left₀ (zpow_pos two_pos e), Nat.cast_le]

/-- A power of two may stand in the significand or in the exponent. -/
theorem dyadic_mul_pow (m k : Nat) (e : Int) : dyadic (m * 2 ^ k) e = dyadic m (e + k) := by
  rw [dyadic, dyadic, Nat.cast_mul, Nat.cast_pow, zpow_add₀ two_ne_zero, zpow_natCast]
  push_cast
  ring

/-- A greater exponent makes a greater number, if the other significand is short and this one is
full. -/
theorem dyadic_lt_of_lt (short : m < 2 ^ 53) (full : 2 ^ 52 ≤ n) (less : e < f) :
    dyadic m e < dyadic n f := by
  obtain ⟨k, rfl⟩ : ∃ k : Nat, f = e + 1 + k := ⟨(f - (e + 1)).toNat, by omega⟩
  calc dyadic m e < dyadic (2 ^ 53) e := dyadic_lt_iff.mpr short
    _ = dyadic (2 ^ 52 * 2 ^ 1) e := rfl
    _ ≤ dyadic (n * 2 ^ (k + 1)) e := by
        refine dyadic_le_iff.mpr (Nat.mul_le_mul full ?_)
        exact Nat.pow_le_pow_right two_pos (Nat.le_add_left 1 k)
    _ = dyadic n (e + 1 + k) := by
        rw [dyadic_mul_pow]
        congr 1
        push_cast
        ring

theorem InBand.dyadic_lt (h : InBand m e) (h' : InBand n f) (less : e < f) :
    dyadic m e < dyadic n f := by
  have full : 2 ^ 52 ≤ n := h'.full.resolve_right fun least => by
    have := h.least
    omega
  exact dyadic_lt_of_lt h.short full less

/-- Numbers are compared by their exponents first. -/
theorem compare_dyadic (h : InBand m e) (h' : InBand n f) :
    (compare e f).then (compare m n) = compare (dyadic m e) (dyadic n f) := by
  rcases lt_trichotomy e f with less | rfl | greater
  · rw [compare_lt_iff_lt.mpr less, compare_lt_iff_lt.mpr (h.dyadic_lt h' less)]
    rfl
  · rw [compare_eq_iff_eq.mpr rfl, Ordering.eq_then]
    rcases lt_trichotomy m n with less | rfl | greater
    · rw [compare_lt_iff_lt.mpr less, compare_lt_iff_lt.mpr (dyadic_lt_iff.mpr less)]
    · rw [compare_eq_iff_eq.mpr rfl, compare_eq_iff_eq.mpr rfl]
    · rw [compare_gt_iff_gt.mpr greater, compare_gt_iff_gt.mpr (dyadic_lt_iff.mpr greater)]
  · rw [compare_gt_iff_gt.mpr greater, compare_gt_iff_gt.mpr (h'.dyadic_lt h greater)]
    rfl

/-! ### Numbers -/

/-- A number with a sign. -/
def withSign (s : Sign) (x : ℚ) : ℚ :=
  match s with
  | .negative => -x
  | .positive => x

/-- What an unpacked number stands for. -/
def unpackedValue : UnpackedFloat → Wide ℚ
  | .notANumber => .nan
  | .infinity .negative => .bottom
  | .infinity .positive => .top
  | .zero _ => .finite 0
  | .finite s m e _ => .finite (withSign s (dyadic m e))

theorem unpackedValue_eq_nan_iff {u : UnpackedFloat} :
    unpackedValue u = .nan ↔ u = .notANumber := by
  fun_cases unpackedValue u <;> simp

theorem unpackedValue_eq_top_iff {u : UnpackedFloat} :
    unpackedValue u = .top ↔ u = .infinity .positive := by
  fun_cases unpackedValue u <;> simp

/-- A positive number is unpacked to a significand and an exponent. -/
theorem unpackedValue_eq_finite {u : UnpackedFloat} {q : ℚ} (positive : 0 < q)
    (number : unpackedValue u = .finite q) :
    ∃ m e, ∃ m_pos : 0 < m, u = .finite .positive m e m_pos ∧ q = dyadic m e := by
  cases u with
  | notANumber => cases number
  | infinity s => cases s <;> cases number
  | zero s =>
    cases number
    exact absurd positive (lt_irrefl 0)
  | finite s m e m_pos =>
    cases number
    cases s with
    | negative => exact absurd positive (not_lt.mpr (neg_nonpos.mpr (dyadic_pos m_pos).le))
    | positive => exact ⟨m, e, m_pos, rfl, rfl⟩

/-! ### Order -/

/-- The unpacked numbers that numbers are unpacked to. -/
def Canonical : UnpackedFloat → Prop
  | .finite _ m e _ => InBand m e ∧ e ≤ 971
  | _ => True

theorem swap_compare (x y : ℚ) : (compare x y).swap = compare (-x) (-y) := by
  rcases lt_trichotomy x y with less | rfl | greater
  · rw [compare_lt_iff_lt.mpr less, compare_gt_iff_gt.mpr (neg_lt_neg less)]
    rfl
  · rw [compare_eq_iff_eq.mpr rfl, compare_eq_iff_eq.mpr rfl]
    rfl
  · rw [compare_gt_iff_gt.mpr greater, compare_lt_iff_lt.mpr (neg_lt_neg greater)]
    rfl

theorem compare_finite {s t : Sign} (m_pos : 0 < m) (n_pos : 0 < n) (h : InBand m e)
    (h' : InBand n f) : (UnpackedFloat.finite s m e m_pos).compare (.finite t n f n_pos) =
      some (compare (withSign s (dyadic m e)) (withSign t (dyadic n f))) := by
  have left : 0 < dyadic m e := dyadic_pos m_pos
  have right : 0 < dyadic n f := dyadic_pos n_pos
  cases s <;> cases t <;> rw [UnpackedFloat.compare, withSign, withSign]
  · rw [compare_dyadic h h', swap_compare]
  · rw [compare_lt_iff_lt.mpr ((neg_neg_of_pos left).trans right)]
  · rw [compare_gt_iff_gt.mpr ((neg_neg_of_pos right).trans left)]
  · rw [compare_dyadic h h']

theorem compare_zero_finite {s t : Sign} (n_pos : 0 < n) :
    (UnpackedFloat.zero s).compare (.finite t n f n_pos) =
      some (compare 0 (withSign t (dyadic n f))) := by
  have size : 0 < dyadic n f := dyadic_pos n_pos
  cases t <;> rw [UnpackedFloat.compare, withSign]
  · rw [compare_gt_iff_gt.mpr (neg_neg_of_pos size)]
  · rw [compare_lt_iff_lt.mpr size]

theorem compare_finite_zero {s t : Sign} (m_pos : 0 < m) :
    (UnpackedFloat.finite s m e m_pos).compare (.zero t) =
      some (compare (withSign s (dyadic m e)) 0) := by
  have size : 0 < dyadic m e := dyadic_pos m_pos
  cases s <;> rw [UnpackedFloat.compare, withSign]
  · rw [compare_lt_iff_lt.mpr (neg_neg_of_pos size)]
  · rw [compare_gt_iff_gt.mpr size]

/-- Unpacked numbers are compared by what they stand for. -/
theorem compare_eq_order? {a b : UnpackedFloat} (ha : Canonical a) (hb : Canonical b) :
    a.compare b = (unpackedValue a).order? (unpackedValue b) := by
  cases a with
  | notANumber => rfl
  | infinity s => cases s <;> rcases b with ⟨⟨⟩⟩ | _ | _ | _ <;> rfl
  | zero s =>
    cases b with
    | notANumber => rfl
    | infinity t => cases t <;> rfl
    | zero t => exact congrArg some (compare_eq_iff_eq.mpr rfl).symm
    | finite t n f n_pos => exact compare_zero_finite n_pos
  | finite s m e m_pos =>
    cases b with
    | notANumber => cases s <;> rfl
    | infinity t => cases s <;> cases t <;> rfl
    | zero t => exact compare_finite_zero m_pos
    | finite t n f n_pos => exact compare_finite m_pos n_pos ha.1 hb.1

/-! ### Packing -/

/-- What is added to the exponent of a significand that is a whole number. -/
theorem exponentBias_eq : (Format.binary64.exponentBias : Int) +
    (Format.binary64.mantissaBitsWithoutImplicit : Int) = 1075 := rfl

/-- A significand with all of its bits is its first bit with the rest. -/
theorem toNat_one_append (v : BitVec 52) : (1#1 ++ v).toNat = 2 ^ 52 + v.toNat := by
  rw [BitVec.toNat_append, ← Nat.shiftLeft_add_eq_or_of_lt v.isLt]
  rfl

/-- Numbers are unpacked to canonical ones. -/
theorem canonical_unpack (b : BitVec Format.binary64.numBits) :
    Canonical (UnpackedFloat.unpack .binary64 b) := by
  have short : (unpackMantissa b).toNat < 2 ^ 52 := (unpackMantissa b).isLt
  have most : (unpackExponent b).toNat < 2048 := (unpackExponent b).isLt
  rw [UnpackedFloat.unpack]
  dsimp only
  rw [exponentBias_eq]
  split
  -- With the greatest exponent there are infinities and the value that is no number, with the least
  -- one zero and the significands that are short.
  · split <;> trivial
  · next notGreatest =>
    split
    · next least =>
      split
      · trivial
      · have exponent : ((unpackExponent b).toNat : Int) - 1075 + 1 = -1074 := by
          rw [least]
          rfl
        rw [exponent]
        exact ⟨⟨by omega, le_rfl, .inr rfl⟩, by decide⟩
    · next notLeast =>
      have upper : (unpackExponent b).toNat ≠ 2047 := fun same =>
        notGreatest (BitVec.eq_of_toNat_eq same)
      have lower : (unpackExponent b).toNat ≠ 0 := fun same =>
        notLeast (BitVec.eq_of_toNat_eq same)
      have significand := toNat_one_append (unpackMantissa b)
      exact ⟨⟨by omega, by omega, .inl (by omega)⟩, by omega⟩

theorem unpack_packComponents_full {s : Sign} (m_pos : 0 < m) (short : m < 2 ^ 53)
    (full : 2 ^ 52 ≤ m) (least : -1074 ≤ e) (most : e ≤ 971) :
    UnpackedFloat.unpack .binary64 (packComponents .binary64 s (BitVec.ofNat 11 (e + 1075).toNat)
      (BitVec.ofNat 52 m)) = .finite s m e m_pos := by
  have exponent : (BitVec.ofNat 11 (e + 1075).toNat).toNat = (e + 1075).toNat := by
    rw [BitVec.toNat_ofNat]
    exact Nat.mod_eq_of_lt (by omega)
  have significand : (1#1 ++ BitVec.ofNat 52 m).toNat = m := by
    rw [toNat_one_append, BitVec.toNat_ofNat]
    omega
  have notGreatest : BitVec.ofNat 11 (e + 1075).toNat ≠ -1#11 := fun same => by
    rw [same] at exponent
    have greatest : (-1#11).toNat = 2047 := rfl
    omega
  have notLeast : BitVec.ofNat 11 (e + 1075).toNat ≠ 0#11 := fun same => by
    rw [same] at exponent
    have zero : (0#11).toNat = 0 := rfl
    omega
  rw [UnpackedFloat.unpack]
  simp only [unpackMantissa_packComponents, unpackExponent_packComponents,
    unpackSign_packComponents, Sign.ofBitVec_toBitVec, exponent,
    significand]
  rw [if_neg notGreatest, if_neg notLeast]
  have bias : (Format.binary64.exponentBias : Int) + (52 : Nat) = 1075 := exponentBias_eq
  congr 1
  omega

theorem unpack_packComponents_short {s : Sign} (m_pos : 0 < m) (short : m < 2 ^ 52) :
    UnpackedFloat.unpack .binary64 (packComponents .binary64 s 0#11 (BitVec.ofNat 52 m)) =
      .finite s m (-1074) m_pos := by
  have significand : (BitVec.ofNat 52 m).toNat = m := by
    rw [BitVec.toNat_ofNat]
    exact Nat.mod_eq_of_lt short
  have nonzero : BitVec.ofNat 52 m ≠ 0#52 := fun same => by
    rw [same] at significand
    exact m_pos.ne significand
  rw [UnpackedFloat.unpack]
  simp only [unpackMantissa_packComponents, unpackExponent_packComponents,
    unpackSign_packComponents, Sign.ofBitVec_toBitVec, significand]
  rw [if_neg (by decide), if_pos trivial, dif_neg nonzero]
  rfl

/-- A number that is not too great is unpacked as it was packed. -/
theorem unpack_pack_finite {s : Sign} (m_pos : 0 < m) (h : InBand m e) (most : e ≤ 971) :
    UnpackedFloat.unpack .binary64 (UnpackedFloat.pack .binary64 (.finite s m e m_pos)) =
      .finite s m e m_pos := by
  have least : -1074 ≤ e := h.least
  rw [UnpackedFloat.pack]
  dsimp only
  rw [add_assoc, exponentBias_eq, if_neg (by show ¬ 2 ^ 11 ≤ _; omega)]
  rcases Nat.lt_or_ge m (2 ^ 52) with short | full
  · have log : m.log2 < 52 := (Nat.log2_lt m_pos.ne').mpr short
    obtain rfl : e = -1074 := h.full.resolve_left (not_le.mpr short)
    rw [if_neg (by show ¬ m.log2 + 1 = 53; omega)]
    exact unpack_packComponents_short m_pos short
  · have log : m.log2 = 52 := (Nat.log2_eq_iff m_pos.ne').mpr ⟨full, h.short⟩
    rw [if_pos (by rw [log]; rfl)]
    exact unpack_packComponents_full m_pos h.short full least most

/-- A number that is too great is packed as infinity. -/
theorem pack_finite_of_lt {s : Sign} (m_pos : 0 < m) (greater : 971 < e) :
    UnpackedFloat.pack .binary64 (.finite s m e m_pos) = packedInfinity .binary64 s := by
  rw [UnpackedFloat.pack]
  dsimp only
  rw [add_assoc, exponentBias_eq, if_pos (by show 2 ^ 11 ≤ _; omega)]

/-! ### Numbers as they are read -/

/-- What a number stands for. -/
def wideValue (x : Float) : Wide ℚ :=
  unpackedValue x.toModel.unpack

theorem canonical_toModel (x : Float) : Canonical x.toModel.unpack :=
  canonical_unpack _

theorem wideValue_lt_iff (x y : Float) : x < y ↔ wideValue x < wideValue y := by
  show decide ((x.toModel.unpack.compare y.toModel.unpack == some .lt) = true) = true ↔ _
  rw [compare_eq_order? (canonical_toModel x) (canonical_toModel y), decide_eq_true_iff, beq_iff_eq]
  rfl

theorem wideValue_le_iff (x y : Float) : x ≤ y ↔ wideValue x ≤ wideValue y := by
  show decide ((x.toModel.unpack.compare y.toModel.unpack).any (·.isLE) = true) = true ↔ _
  rw [compare_eq_order? (canonical_toModel x) (canonical_toModel y), decide_eq_true_iff]
  rfl

/-- A finite number stands for a number. -/
theorem isFinite_iff {x : Float} : x.isFinite = true ↔ ∃ q, wideValue x = .finite q := by
  rw [Float.isFinite, Float.Model.isFinite, wideValue]
  rcases x.toModel.unpack with ⟨⟨⟩⟩ | _ | _ | _ <;> simp [UnpackedFloat.isFinite, unpackedValue]

theorem isNaN_iff {x : Float} : x.isNaN = true ↔ wideValue x = .nan := by
  rw [Float.isNaN, Float.Model.isNaN, wideValue]
  rcases x.toModel.unpack with ⟨⟨⟩⟩ | _ | _ | _ <;> simp [UnpackedFloat.isNaN, unpackedValue]

end ProofRelay.Decimal
