import ProofRelay.Json.Basic

/-!
# Layers of settings

One document of settings laid over another: objects under the same name are merged in turn, and
any other value of the upper layer replaces the one below.

## Main definitions

* `Json.merge` : the fields of two layers.

## Main results

* `Json.merge_nil` : an empty layer changes nothing.
-/

namespace ProofRelay.Json

mutual

/-- The fields of a layer laid over the fields of another. -/
def merge (base : Fields) : List (String × Json) → Fields
  | [] => base
  | (k, v) :: fs => merge (put k (mergeValue (get? k base) v) base) fs

/-- A value laid over the value under the same name. -/
def mergeValue (below : Option Json) : Json → Json
  | obj fs =>
    match below with
    | some (obj base) => obj (merge base fs)
    | _ => obj fs
  | v => v

end

/-- An empty layer changes nothing. -/
@[simp] theorem merge_nil (base : Fields) : merge base [] = base := by
  rw [merge]

end ProofRelay.Json
