import ProofRelay.Proofs.Json.Language

/-!
# Names of a document that was read

An object of a document may write a name more than once; the value that it denotes has every name
once.  The last value under a name is kept by writing one field after the other into an object that
is empty at first, and a write either adds a new name or changes a value.

A layer of settings is laid over another one field by field, so that the names of its objects have
to be known as different before it can be said which value comes out under a name.

## Main definitions

* `Json.IsNamed` : the values in which every object has different names.

## Main results

* `Json.isNamed_of_denotes` : what a document denotes is such a value.
* `Json.isNamed_of_read` : a document that was read is such a value.
-/

namespace ProofRelay.Json

open ProofRelay.Text

/-- The values in which every object has different names. -/
inductive IsNamed : Json → Prop
  /-- A value that is neither a list nor an object. -/
  | leaf {v : Json} (items : ∀ xs, v ≠ arr xs) (fields : ∀ fs, v ≠ obj fs) : IsNamed v
  /-- A list of such values. -/
  | arr {xs : List Json} (items : ∀ v ∈ xs, IsNamed v) : IsNamed (arr xs)
  /-- An object with different names and such values. -/
  | obj {fs : Fields} (names : (fs.map (·.1)).Nodup) (values : ∀ f ∈ fs, IsNamed f.2) :
      IsNamed (obj fs)

/-- A value under a name is one of the object's. -/
theorem mem_of_get? {key : String} {v : Json} {fs : Fields} (h : get? key fs = some v) :
    (key, v) ∈ fs := by
  induction fs with
  | nil => cases h
  | cons f fs ih =>
    obtain ⟨k, u⟩ := f
    rw [get?] at h
    split at h
    · rename_i same
      obtain rfl := Option.some.inj h
      exact same ▸ List.mem_cons_self
    · exact List.mem_cons_of_mem _ (ih h)

theorem get?_eq_none {key : String} {fs : Fields} (h : key ∉ fs.map (·.1)) :
    get? key fs = none := by
  cases found : get? key fs with
  | none => rfl
  | some v => exact absurd (List.mem_map_of_mem (f := Prod.fst) (mem_of_get? found)) h

theorem IsNamed.names {fs : Fields} (h : (Json.obj fs).IsNamed) : (fs.map (·.1)).Nodup := by
  cases h with
  | leaf _ other => exact absurd rfl (other fs)
  | obj names _ => exact names

theorem IsNamed.value {fs : Fields} (h : (Json.obj fs).IsNamed) : ∀ f ∈ fs, f.2.IsNamed := by
  cases h with
  | leaf _ other => exact absurd rfl (other fs)
  | obj _ values => exact values

/-! ### Objects from writes -/

/-- A write adds its own name at most. -/
theorem mem_names_put {key name : String} {value : Json} {fs : Fields}
    (h : name ∈ (put key value fs).map (·.1)) : name = key ∨ name ∈ fs.map (·.1) := by
  induction fs with
  | nil => exact .inl (List.mem_singleton.mp h)
  | cons f fs ih =>
    obtain ⟨k, v⟩ := f
    rw [put] at h
    split at h
    · exact .inr h
    · rcases List.mem_cons.mp h with rfl | h
      · exact .inr List.mem_cons_self
      · exact (ih h).imp_right (List.mem_cons_of_mem _)

theorem nodup_put {fs : Fields} (h : (fs.map (·.1)).Nodup) (key : String) (value : Json) :
    ((put key value fs).map (·.1)).Nodup := by
  induction fs with
  | nil => exact List.nodup_cons.mpr ⟨List.not_mem_nil, .nil⟩
  | cons f fs ih =>
    obtain ⟨k, v⟩ := f
    obtain ⟨fresh, h⟩ := List.nodup_cons.mp h
    rw [put]
    split
    · exact List.nodup_cons.mpr ⟨fresh, h⟩
    · rename_i other
      refine List.nodup_cons.mpr ⟨fun mem => ?_, ih h⟩
      exact (mem_names_put mem).elim other fresh

/-- A field after a write was written now or before. -/
theorem mem_put {key : String} {value : Json} {fs : Fields} {f : String × Json}
    (h : f ∈ put key value fs) : f.2 = value ∨ f ∈ fs := by
  induction fs with
  | nil =>
    obtain rfl := List.mem_singleton.mp h
    exact .inl rfl
  | cons g fs ih =>
    obtain ⟨k, v⟩ := g
    rw [put] at h
    split at h
    · rcases List.mem_cons.mp h with rfl | h
      · exact .inl rfl
      · exact .inr (List.mem_cons_of_mem _ h)
    · rcases List.mem_cons.mp h with rfl | h
      · exact .inr List.mem_cons_self
      · exact (ih h).imp_right (List.mem_cons_of_mem _)

/-- An object made of writes has different names. -/
theorem IsNamed.ofWrites {writes : Fields} (h : ∀ f ∈ writes, f.2.IsNamed) :
    (Json.obj (ofWrites writes)).IsNamed := by
  have folded : ∀ fs : Fields, (Json.obj fs).IsNamed →
      (Json.obj (writes.foldl (fun fs f => put f.1 f.2 fs) fs)).IsNamed := by
    induction writes with
    | nil => exact fun _ named => named
    | cons g writes ih =>
      obtain ⟨first, rest⟩ := List.forall_mem_cons.mp h
      intro fs named
      refine ih rest _ (.obj (nodup_put named.names g.1 g.2) fun f mem => ?_)
      rcases mem_put mem with same | mem
      · exact same ▸ first
      · exact named.value f mem
  exact folded [] (.obj .nil nofun)

/-! ### Documents -/

theorem isNamed_ofPoints (ps : List Nat) : (ofPoints ps).IsNamed := by
  rw [ofPoints]
  split <;> exact .leaf (by simp) (by simp)

/-- Whether every object of a part has different names. -/
def Part.IsNamed : Part → Prop
  | .value v => v.IsNamed
  | .items vs => ∀ v ∈ vs, v.IsNamed
  | .field f => f.2.IsNamed
  | .members fs => ∀ f ∈ fs, f.2.IsNamed

/-- What a document denotes has different names in every object. -/
theorem isNamed_of_denotes {p : Part} {s : List Char} (h : Denotes p s) : p.IsNamed := by
  induction h with
  | word h =>
    simp only [words, List.mem_cons, List.not_mem_nil, or_false] at h
    rcases h with rfl | rfl | rfl | rfl | rfl | rfl <;> exact .leaf (by simp) (by simp)
  | number spelled => cases spelled <;> exact .leaf (by simp) (by simp)
  | text => exact isNamed_ofPoints _
  | emptyList => exact .arr (List.forall_mem_nil _)
  | list _ _ ih => exact .arr ih
  | emptyObject => exact .obj .nil (List.forall_mem_nil _)
  | object _ _ ih => exact .ofWrites ih
  | lastItem _ _ ih | lastMember _ _ ih => exact List.forall_mem_singleton.mpr ih
  | item _ _ _ _ ih ih' | member _ _ _ _ ih ih' => exact List.forall_mem_cons.mpr ⟨ih, ih'⟩
  | field _ _ _ _ ih => exact ih

/-- A document that was read has different names in every object. -/
theorem isNamed_of_read {text : String} {v : Json} (h : read text = .ok v) : v.IsNamed := by
  obtain ⟨_, _, _, -, -, -, denotes⟩ := readChars_eq_ok_iff.mp h
  exact isNamed_of_denotes denotes

end ProofRelay.Json
