import ProofRelay.Decimal.Binary64

/-!
# Finite numbers

The parts of a number are read from its bits here, while core tells a finite number by its model.
Both look at the same bits of the exponent, so that every finite number has an integer part.

## Main results

* `toNat_unpackExponent` : the exponent in the bits of a number.
* `truncate?_ne_none` : a finite number has an integer part.
-/

namespace ProofRelay.Decimal

open Float.Model

/-- The exponent in the bits of a number. -/
theorem toNat_unpackExponent (bits : UInt64) :
    (@UnpackedFloat.unpackExponent Format.binary64 bits.toBitVec).toNat =
      bits.toNat / Nat.pow 2 52 % 2048 := by
  rw [UnpackedFloat.unpackExponent]
  simp [BitVec.extractLsb, BitVec.extractLsb'_toNat, Nat.shiftRight_eq_div_pow]

/-- A number with the greatest exponent is not finite. -/
theorem isFinite_of_exponent {x : Float} (h : x.toBits.toNat / Nat.pow 2 52 % 2048 = 2047) :
    x.isFinite = false := by
  have exponent :
      @UnpackedFloat.unpackExponent Format.binary64 x.toModel.toBits.toBitVec = -1#11 := by
    refine BitVec.eq_of_toNat_eq ?_
    rw [toNat_unpackExponent]
    exact h
  rw [Float.isFinite, Float.Model.isFinite, Float.Model.unpack]
  unfold UnpackedFloat.unpack
  dsimp only
  rw [if_pos exponent]
  split <;> rfl

/-- A finite number has an integer part. -/
theorem truncate?_ne_none {x : Float} (h : x.isFinite = true) : truncate? x ≠ none := by
  intro none
  rw [truncate?, Binary64.ofFloat, Binary64.ofBits] at none
  dsimp only at none
  split at none
  · cases none
  · next other =>
    split at other
    · next greatest =>
      rw [isFinite_of_exponent greatest] at h
      cases h
    · split at other
      · exact other _ _ _ rfl
      · exact other _ _ _ rfl

end ProofRelay.Decimal
