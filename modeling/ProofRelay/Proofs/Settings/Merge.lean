import ProofRelay.Proofs.Settings.Precedence

/-!
# Layers that say nothing new

A layer that is laid over a document changes nothing if each of its values is what comes out under
its name anyway.  A layer that is already there is such a layer: what came out of its values the
first time comes out again.

## Main results

* `Json.merge_of_settled` : a layer that says nothing new changes nothing.
* `Json.merge_merge` : a layer that is laid over a document twice counts once.
-/

namespace ProofRelay.Json

variable {base fs : Fields} {key : String} {v : Json}

/-- Nothing is changed by writing what is there. -/
theorem put_of_get? (h : get? key fs = some v) : put key v fs = fs := by
  induction fs with
  | nil => cases h
  | cons f fs ih =>
    obtain ⟨k, u⟩ := f
    rw [get?] at h
    rw [put]
    split at h
    · next same =>
      rw [if_pos same, Option.some.inj h]
    · next other =>
      rw [if_neg other, ih h]

/-- A layer that says nothing new changes nothing. -/
theorem merge_of_settled
    (h : ∀ f ∈ fs, ∃ u, get? f.1 base = some u ∧ mergeValue (some u) f.2 = u) :
    merge base fs = base := by
  induction fs with
  | nil => exact merge_nil base
  | cons f fs ih =>
    obtain ⟨⟨u, there, settled⟩, rest⟩ := List.forall_mem_cons.mp h
    rw [merge, there, settled, put_of_get? there, ih rest]

/-- A layer whose values count once counts once. -/
theorem merge_merge_of_values (names : (fs.map (·.1)).Nodup)
    (values : ∀ f ∈ fs, ∀ below,
      mergeValue (some (mergeValue below f.2)) f.2 = mergeValue below f.2) (base : Fields) :
    merge (merge base fs) fs = merge base fs := by
  refine merge_of_settled fun f mem => ⟨mergeValue (get? f.1 base) f.2, ?_, values f mem _⟩
  rw [get?_merge names, get?_of_mem names mem]
  rfl

/-- A value that is no object counts as it is. -/
theorem mergeValue_eq_self (h : ∀ fs, v ≠ obj fs) (below : Option Json) :
    mergeValue below v = v := by
  cases v with
  | obj fs => exact absurd rfl (h fs)
  | _ =>
    rw [mergeValue]
    intro _ object
    cases object

/-- What came out of a value comes out again. -/
theorem mergeValue_mergeValue (named : v.IsNamed) (below : Option Json) :
    mergeValue (some (mergeValue below v)) v = mergeValue below v := by
  induction named generalizing below with
  | leaf _ fields => rw [mergeValue_eq_self fields, mergeValue_eq_self fields]
  | @arr xs =>
    have plain : ∀ fs, arr xs ≠ obj fs := by
      rintro _ ⟨⟩
    rw [mergeValue_eq_self plain, mergeValue_eq_self plain]
  | @obj fs names _ ih =>
    have twice := merge_merge_of_values names ih
    have self : merge fs fs = fs := by
      refine merge_of_settled fun f mem => ⟨f.2, get?_of_mem names mem, ?_⟩
      have plain : mergeValue none f.2 = f.2 := mergeValue_of_not_obj (by simp) f.2
      have again := ih f mem none
      rwa [plain] at again
    by_cases object : ∃ base, below = some (.obj base)
    · obtain ⟨base, rfl⟩ := object
      rw [mergeValue, mergeValue, twice]
    · rw [mergeValue_of_not_obj fun base same => object ⟨base, same⟩, mergeValue, self]

/-- A layer that is laid over a document twice counts once. -/
theorem merge_merge (named : (obj fs).IsNamed) (base : Fields) :
    merge (merge base fs) fs = merge base fs :=
  merge_merge_of_values named.names (fun f mem => mergeValue_mergeValue (named.value f mem)) base

end ProofRelay.Json
