import ProofRelay.Proofs.Settings.Merge

/-!
# Layers along paths of names

What comes out of two layers is told by what each of them holds at the end of a path of names, as
far as the path leads through objects.  Where the upper layer holds a value that is no object, this
value comes out, and nothing is found behind it, whatever the lower layer has there.  Where the
upper layer holds an object, it is laid over what the lower layer holds; and where it has no such
name, the lower layer decides.

The two layers are walked along a path together: either both hold an object at the first name, and
the walk goes on in these, or what the upper layer holds there is all that is left.

## Main definitions

* `Json.along?` : what a value holds at the end of a path.
* `Json.LiesOver` : what is known of a layer that is laid over another one.

## Main results

* `Json.names_merge` : the names of both layers, the new ones behind the others.
* `Json.along?_mergeValue`, `Json.along?_mergeValue_of_absent` : what a path leads to, where it
  ends in the upper layer, and where that layer lacks one of its names.
* `Json.liesOver_of_isNamed` : the law of layers.
-/

namespace ProofRelay.Json

variable {base fs : Fields} {key : String} {u v : Json} {path front : List String}

/-! ### The names of two layers -/

theorem names_put (key : String) (v : Json) (fs : Fields) :
    (put key v fs).map (·.1) =
      if key ∈ fs.map (·.1) then fs.map (·.1) else fs.map (·.1) ++ [key] := by
  induction fs with
  | nil => rfl
  | cons f fs ih =>
    obtain ⟨k, u⟩ := f
    rw [put]
    by_cases same : k = key
    · subst same
      simp
    · have other : ¬ key = k := Ne.symm same
      rw [if_neg same, List.map_cons, ih]
      simp only [List.map_cons, List.mem_cons, other, false_or]
      split <;> rfl

/-- The names of two layers over each other: those of the lower one, and behind them those of the
upper one that are new. -/
theorem names_merge (names : (fs.map (·.1)).Nodup) (base : Fields) :
    (merge base fs).map (·.1) =
      base.map (·.1) ++ (fs.map (·.1)).filter fun key => key ∉ base.map (·.1) := by
  induction fs generalizing base with
  | nil => simp
  | cons f fs ih =>
    obtain ⟨k, v⟩ := f
    obtain ⟨fresh, names⟩ := List.nodup_cons.mp names
    rw [merge, ih names, names_put, List.map_cons]
    by_cases known : k ∈ base.map (·.1)
    · rw [if_pos known, List.filter_cons_of_neg (by simpa using known)]
    · -- No later name of the upper layer is the one that was added now.
      have later : ∀ key ∈ fs.map (·.1),
          (key ∉ base.map (·.1) ++ [k]) = (key ∉ base.map (·.1)) := by
        intro key mem
        have other : key ≠ k := fun same => fresh (same ▸ mem)
        simp [other]
      rw [if_neg known, List.filter_cons_of_pos (by simpa using known), List.append_assoc,
        List.singleton_append]
      exact congrArg (fun l => base.map (·.1) ++ k :: l)
        (List.filter_congr fun key mem => decide_eq_decide.mpr (iff_of_eq (later key mem)))

/-! ### Different names -/

theorem isNamed_put (named : (obj fs).IsNamed) (value : v.IsNamed) :
    (obj (put key v fs)).IsNamed := by
  refine .obj (nodup_put named.names key v) fun f mem => ?_
  rcases mem_put mem with same | mem
  · exact same ▸ value
  · exact named.value f mem

/-- A layer whose values come out named comes out named. -/
theorem isNamed_merge_of_values (low : (obj base).IsNamed)
    (values : ∀ f ∈ fs, ∀ below : Option Json, (∀ u, below = some u → u.IsNamed) →
      (mergeValue below f.2).IsNamed) : (obj (merge base fs)).IsNamed := by
  induction fs generalizing base with
  | nil => rwa [merge_nil]
  | cons f fs ih =>
    obtain ⟨first, rest⟩ := List.forall_mem_cons.mp values
    rw [merge]
    exact ih (isNamed_put low (first _ fun u found => low.value _ (mem_of_get? found))) rest

/-- What comes out of two values has different names in every object, if both have. -/
theorem isNamed_mergeValue {below : Option Json} (named : v.IsNamed)
    (low : ∀ u, below = some u → u.IsNamed) : (mergeValue below v).IsNamed := by
  induction named generalizing below with
  | leaf items fields =>
    rw [mergeValue_eq_self fields]
    exact .leaf items fields
  | @arr xs items =>
    have plain : ∀ fs, arr xs ≠ obj fs := by
      rintro _ ⟨⟩
    rw [mergeValue_eq_self plain]
    exact .arr items
  | @obj fs names values ih =>
    by_cases object : ∃ base, below = some (.obj base)
    · obtain ⟨base, rfl⟩ := object
      rw [mergeValue]
      exact isNamed_merge_of_values (low _ rfl) fun f mem below low => ih f mem low
    · rw [mergeValue_of_not_obj fun base same => object ⟨base, same⟩]
      exact .obj names values

/-! ### Paths -/

/-- What a value holds at the end of a path of names, as far as the path leads through objects. -/
def along? : List String → Json → Option Json
  | [], v => some v
  | key :: path, v => (v.field? key).bind (along? path)

theorem along?_cons_obj (key : String) (path : List String) (fs : Fields) :
    along? (key :: path) (obj fs) = (get? key fs).bind (along? path) := rfl

/-- Nothing is found behind a value that is no object. -/
theorem along?_cons_of_not_obj (plain : ∀ fs, v ≠ obj fs) (key : String) (path : List String) :
    along? (key :: path) v = none := by
  cases v with
  | obj fs => exact absurd rfl (plain fs)
  | _ => rfl

/-- Where a path leads to something, its first part leads to an object. -/
theorem exists_obj_of_along?_cons (found : along? (key :: path) v = some u) :
    ∃ fs w, v = obj fs ∧ get? key fs = some w ∧ along? path w = some u := by
  by_cases object : ∃ fs, v = obj fs
  · obtain ⟨fs, rfl⟩ := object
    rw [along?_cons_obj] at found
    obtain ⟨w, here, found⟩ := Option.bind_eq_some_iff.mp found
    exact ⟨fs, w, rfl, here, found⟩
  · rw [along?_cons_of_not_obj fun fs same => object ⟨fs, same⟩] at found
    cases found

theorem along?_append (front path : List String) (v : Json) :
    along? (front ++ path) v = (along? front v).bind (along? path) := by
  induction front generalizing v with
  | nil => rfl
  | cons key front ih =>
    rw [List.cons_append, along?, along?, Option.bind_assoc]
    exact congrArg _ (funext fun w => ih w)

/-! ### Paths in layers over each other -/

section Layers

variable {below : Option Json}

/-- Below a value that is no object there is nothing. -/
theorem bind_along?_cons_of_not_obj (plain : ∀ base, below ≠ some (obj base)) (key : String)
    (path : List String) : below.bind (along? (key :: path)) = none := by
  cases below with
  | none => rfl
  | some u => exact along?_cons_of_not_obj (fun fs same => plain fs (congrArg some same)) key path

/-- Where a path leads to something in the upper value, it leads to what comes out of this and of
what it leads to in the lower value. -/
theorem along?_mergeValue (named : v.IsNamed) (below : Option Json)
    (found : along? path v = some u) :
    along? path (mergeValue below v) = some (mergeValue (below.bind (along? path)) u) := by
  induction path generalizing v below with
  | nil =>
    obtain rfl := Option.some.inj found
    cases below <;> rfl
  | cons key path ih =>
    obtain ⟨fs, w, rfl, here, rest⟩ := exists_obj_of_along?_cons found
    by_cases object : ∃ base, below = some (obj base)
    · obtain ⟨base, rfl⟩ := object
      have step := ih (named.value _ (mem_of_get? here)) (get? key base) rest
      rw [mergeValue, along?_cons_obj, get?_merge named.names, here, Option.bind_some,
        along?_cons_obj]
      exact step
    · have plain : ∀ base, below ≠ some (obj base) := fun base same => object ⟨base, same⟩
      rw [mergeValue_of_not_obj plain, bind_along?_cons_of_not_obj plain,
        mergeValue_of_not_obj (by simp)]
      exact found

/-- Where the upper value lacks a name of a path, and has an object in front of it, the path leads
to what it leads to in the lower value. -/
theorem along?_mergeValue_of_absent (named : v.IsNamed) (below : Option Json)
    (absent : along? path v = none)
    (through : ∀ front, front <+: path → ∀ w, along? front v = some w → ∃ fs, w = obj fs) :
    along? path (mergeValue below v) = below.bind (along? path) := by
  induction path generalizing v below with
  | nil => cases absent
  | cons key path ih =>
    obtain ⟨fs, rfl⟩ := through [] List.nil_prefix v rfl
    by_cases object : ∃ base, below = some (obj base)
    · obtain ⟨base, rfl⟩ := object
      rw [mergeValue, along?_cons_obj, get?_merge named.names, Option.bind_some, along?_cons_obj]
      rw [along?_cons_obj] at absent
      cases here : get? key fs with
      | none => rfl
      | some w =>
        rw [here] at absent
        have value : w.IsNamed := named.value _ (mem_of_get? here)
        refine ih value (get? key base) absent fun front behind u met => ?_
        refine through (key :: front) ((List.prefix_cons_inj key).mpr behind) u ?_
        rw [along?_cons_obj, here]
        exact met
    · have plain : ∀ base, below ≠ some (obj base) := fun base same => object ⟨base, same⟩
      rw [mergeValue_of_not_obj plain, bind_along?_cons_of_not_obj plain]
      exact absent

end Layers

/-! ### The law of layers -/

/-- What is known of a layer that is laid over another one.  The first four entries tell what a
path leads to, one for each way in which it may go on in the upper layer. -/
structure LiesOver (above below : Fields) : Prop where
  /-- A value of the upper layer that is no object comes out. -/
  replaced : ∀ path v, along? path (obj above) = some v → (∀ fs, v ≠ obj fs) →
    along? path (obj (merge below above)) = some v
  /-- Nothing is found behind such a value. -/
  covered : ∀ path front v, front <+: path → front ≠ path → along? front (obj above) = some v →
    (∀ fs, v ≠ obj fs) → along? path (obj (merge below above)) = none
  /-- Where the upper layer lacks a name, and has objects in front of it, the lower layer decides.
  -/
  kept : ∀ path, along? path (obj above) = none →
    (∀ front, front <+: path → ∀ v, along? front (obj above) = some v → ∃ fs, v = obj fs) →
    along? path (obj (merge below above)) = along? path (obj below)
  /-- An object of the upper layer is laid over an object of the lower one, and replaces any other
  value. -/
  joined : ∀ path fs, along? path (obj above) = some (obj fs) →
    along? path (obj (merge below above)) =
      some (mergeValue (along? path (obj below)) (obj fs))
  /-- The names are those of both layers. -/
  names : ∀ key, key ∈ (merge below above).map (·.1) ↔
    key ∈ below.map (·.1) ∨ key ∈ above.map (·.1)
  /-- Those of the lower layer come first, in its order, and then the new ones. -/
  order : (merge below above).map (·.1) =
    below.map (·.1) ++ (above.map (·.1)).filter fun key => key ∉ below.map (·.1)
  /-- The names in every object stay different. -/
  named : (obj below).IsNamed → (obj (merge below above)).IsNamed
  /-- The layer counts once, however often it is laid over the other one. -/
  once : merge (merge below above) above = merge below above
  /-- A layer without names changes nothing. -/
  empty : merge below [] = below
  /-- Over a layer without names it is the layer itself. -/
  alone : merge [] above = above

theorem mem_names_merge (names : (fs.map (·.1)).Nodup) (base : Fields) (key : String) :
    key ∈ (merge base fs).map (·.1) ↔ key ∈ base.map (·.1) ∨ key ∈ fs.map (·.1) := by
  rw [names_merge names, List.mem_append, List.mem_filter, decide_eq_true_eq]
  by_cases known : key ∈ base.map (·.1) <;> simp [known]

/-- A layer whose names are all new stands behind the other one. -/
theorem merge_of_fresh (names : (fs.map (·.1)).Nodup) (fresh : ∀ f ∈ fs, f.1 ∉ base.map (·.1)) :
    merge base fs = base ++ fs := by
  induction fs generalizing base with
  | nil => rw [merge_nil, List.append_nil]
  | cons f fs ih =>
    obtain ⟨k, v⟩ := f
    obtain ⟨single, names⟩ := List.nodup_cons.mp names
    obtain ⟨first, rest⟩ := List.forall_mem_cons.mp fresh
    have value : mergeValue none v = v := mergeValue_of_not_obj (by simp) v
    rw [merge, get?_eq_none first, value, put_of_not_mem v first, ih names, List.append_assoc]
    · rfl
    · intro f mem
      have there : f.1 ∈ fs.map (·.1) := List.mem_map_of_mem mem
      have other : f.1 ≠ k := fun same => single (same ▸ there)
      simpa [other] using rest f mem

/-- A layer that is laid over another one lies over it, if the names in every object of it are
different. -/
theorem liesOver_of_isNamed {above : Fields} (named : (obj above).IsNamed) (below : Fields) :
    LiesOver above below := by
  have whole : mergeValue (some (obj below)) (obj above) = obj (merge below above) := by
    rw [mergeValue]
  have met : ∀ path v, along? path (obj above) = some v →
      along? path (obj (merge below above)) =
        some (mergeValue (along? path (obj below)) v) := by
    intro path v found
    rw [← whole]
    exact along?_mergeValue named _ found
  have replaced : ∀ path v, along? path (obj above) = some v → (∀ fs, v ≠ obj fs) →
      along? path (obj (merge below above)) = some v := by
    intro path v found plain
    rw [met path v found, mergeValue_eq_self plain]
  refine
    { replaced := replaced
      covered := ?covered
      kept := ?kept
      joined := fun path fs found => met path _ found
      names := mem_names_merge named.names below
      order := names_merge named.names below
      named := fun low => ?named
      once := merge_merge named below
      empty := merge_nil below
      alone := ?alone }
  case covered =>
    rintro path front v ⟨rest, rfl⟩ shorter found plain
    rw [along?_append, replaced front v found plain, Option.bind_some]
    cases rest with
    | nil => exact absurd (List.append_nil front).symm shorter
    | cons key rest => exact along?_cons_of_not_obj plain key rest
  case kept =>
    intro path absent through
    rw [← whole]
    exact along?_mergeValue_of_absent named _ absent through
  case named =>
    rw [← whole]
    refine isNamed_mergeValue named ?_
    rintro _ ⟨⟩
    exact low
  case alone => exact merge_of_fresh named.names (by simp)

/-! ### Two layers -/

/-- A lower layer, with objects in each other. -/
def lowerSample : Fields :=
  [("poll", .obj [("limits", .obj [("wait", .int 60), ("polls", .int 5)]), ("factor", .int 2)]),
    ("chain", .str "http://a")]

/-- An upper layer, which has no value in the place of an inner number, an object in the place of a
text, and a list of its own. -/
def upperSample : Fields :=
  [("poll", .obj [("limits", .obj [("wait", .null)])]), ("chain", .obj [("url", .str "http://b")]),
    ("paths", .arr [])]

theorem isNamed_upperSample : (obj upperSample).IsNamed := by
  have wait : null.IsNamed := .leaf (by simp) (by simp)
  have url : (str "http://b").IsNamed := .leaf (by simp) (by simp)
  have paths : (arr []).IsNamed := .arr (List.forall_mem_nil _)
  have limits : (obj [("wait", .null)]).IsNamed :=
    .obj (List.nodup_singleton _) (List.forall_mem_singleton.mpr wait)
  have poll : (obj [("limits", .obj [("wait", .null)])]).IsNamed :=
    .obj (List.nodup_singleton _) (List.forall_mem_singleton.mpr limits)
  have chain : (obj [("url", .str "http://b")]).IsNamed :=
    .obj (List.nodup_singleton _) (List.forall_mem_singleton.mpr url)
  refine .obj (by decide) ?_
  simpa [upperSample] using ⟨poll, chain, paths⟩

/-- The upper layer lies over the lower one. -/
theorem liesOver_sample : (obj upperSample).IsNamed ∧ LiesOver upperSample lowerSample ∧
    merge lowerSample upperSample =
      [("poll", .obj [("limits", .obj [("wait", .null), ("polls", .int 5)]), ("factor", .int 2)]),
        ("chain", .obj [("url", .str "http://b")]), ("paths", .arr [])] :=
  ⟨isNamed_upperSample, liesOver_of_isNamed isNamed_upperSample lowerSample, by decide +kernel⟩

end ProofRelay.Json
