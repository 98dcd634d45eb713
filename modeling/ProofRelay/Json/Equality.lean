import ProofRelay.Json.Basic

/-!
# Deciding equality of values

Equality of values is decidable, so that a statement about a concrete run can be evaluated.  It is
finer than the comparison of documents: the number one and the truth value are not the same value
here.

## Main definitions

* `Json.decEq` : the decision for two values.
-/

namespace ProofRelay.Json

mutual

/-- Whether two values are the same one. -/
def decEq : (v w : Json) → Decidable (v = w)
  | null, w => by cases w with
    | null => exact isTrue rfl
    | _ => exact isFalse nofun
  | bool a, w => by cases w with
    | bool b => exact decidable_of_iff (a = b) (by simp)
    | _ => exact isFalse nofun
  | int a, w => by cases w with
    | int b => exact decidable_of_iff (a = b) (by simp)
    | _ => exact isFalse nofun
  | float a, w => by cases w with
    | float b => exact decidable_of_iff (a = b) (by simp)
    | _ => exact isFalse nofun
  | str a, w => by cases w with
    | str b => exact decidable_of_iff (a = b) (by simp)
    | _ => exact isFalse nofun
  | torn a, w => by cases w with
    | torn b => exact decidable_of_iff (a = b) (by simp)
    | _ => exact isFalse nofun
  | arr xs, w => by cases w with
    | arr ys => exact @decidable_of_iff _ (xs = ys) (by simp) (decEqItems xs ys)
    | _ => exact isFalse nofun
  | obj fs, w => by cases w with
    | obj gs => exact @decidable_of_iff _ (fs = gs) (by simp) (decEqFields fs gs)
    | _ => exact isFalse nofun

/-- Whether two lists of values are the same one. -/
def decEqItems : (xs ys : List Json) → Decidable (xs = ys)
  | [], [] => isTrue rfl
  | [], _ :: _ | _ :: _, [] => isFalse nofun
  | x :: xs, y :: ys =>
    @decidable_of_iff _ (x = y ∧ xs = ys) (by simp)
      (@instDecidableAnd _ _ (decEq x y) (decEqItems xs ys))

/-- Whether two lists of fields are the same one. -/
def decEqFields : (fs gs : List (String × Json)) → Decidable (fs = gs)
  | [], [] => isTrue rfl
  | [], _ :: _ | _ :: _, [] => isFalse nofun
  | (k, v) :: fs, (l, w) :: gs =>
    @decidable_of_iff _ (k = l ∧ v = w ∧ fs = gs) (by simp [and_assoc])
      (@instDecidableAnd _ _ (inferInstanceAs (Decidable (k = l)))
        (@instDecidableAnd _ _ (decEq v w) (decEqFields fs gs)))

end

instance : DecidableEq Json := decEq

end ProofRelay.Json
