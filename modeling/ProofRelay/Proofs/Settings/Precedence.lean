import Mathlib.Data.List.Nodup
import ProofRelay.Proofs.Job.Identity
import ProofRelay.Proofs.Json.Names
import ProofRelay.Proofs.Settings.Loading

/-!
# Which layer decides a setting

The settings are read from a document in which four layers are laid over each other: the defaults,
the file of the operator, the file of a workspace, and the variables of the environment.  An
*option* is a place in this document: a name in one of the known sections, or a name of its own at
the top. What stands there depends on the same place in the other layers alone, as long as a known
section is an object wherever it is written.

The variable of an option decides whenever it is set and can be used.  Below it decides the upper
one of the two files that has the option, and a value `null` counts as one.  There is one
exception: two objects under the same name are laid over each other, so that of the lower one
those names stay that the upper one lacks.

## Main definitions

* `Settings.Place`, `Settings.Place.of?` : the places of a document, and what it holds there.
* `Settings.IsSectioned` : the documents whose known sections are objects.
* `Settings.uppermost` : the value of two files over a default.
* `Settings.Layers` : what the files hold from which settings are loaded.

## Main results

* `Json.get?_merge` : what a lookup gives in layers that are laid over each other.
* `Settings.of?_overlaid` : what a lookup gives under the variables.
* `Settings.load_precedence` : which layer decides an option, and that no other option matters.
-/

namespace ProofRelay

/-! ### Objects over each other -/

namespace Json

/-- What comes out of two values under one name, of which the second is laid over the first. -/
def atop (below above : Option Json) : Option Json :=
  match above with
  | some v => some (mergeValue below v)
  | none => below

/-- In layers over each other a name leads to what comes out of its two values. -/
theorem get?_merge {fs : Fields} (names : (fs.map (·.1)).Nodup) (base : Fields) (key : String) :
    get? key (merge base fs) = atop (get? key base) (get? key fs) := by
  induction fs generalizing base with
  | nil => rw [merge_nil]; rfl
  | cons f fs ih =>
    obtain ⟨k, v⟩ := f
    obtain ⟨fresh, names⟩ := List.nodup_cons.mp names
    rw [merge, ih names, get?_put, get?]
    by_cases same : k = key
    · subst same
      rw [get?_eq_none fresh, if_pos rfl, if_pos rfl]
      rfl
    · rw [if_neg same, if_neg same]

/-- Over a value that is no object the upper value counts as it is. -/
theorem mergeValue_of_not_obj {below : Option Json} (h : ∀ base, below ≠ some (obj base))
    (v : Json) : mergeValue below v = v := by
  cases v with
  | obj fs =>
    rw [mergeValue.eq_def]
    dsimp only
    split
    · rename_i base
      exact absurd rfl (h base)
    · rfl
  | _ => rw [mergeValue]; nofun

theorem atop_none (above : Option Json) : atop none above = above := by
  cases above with
  | none => rfl
  | some v => rw [atop, mergeValue_of_not_obj (by simp)]

end Json

namespace Settings

open Json ProofRelay.Text

/-! ### Places -/

/-- The known sections of a document. -/
def areas : List String :=
  ["chain", "witness", "network", "storage", "programs", "poll", "paths"]

/-- A place in a document: a setting of a section, or a name at the top. -/
inductive Place where
  /-- A setting of a section. -/
  | within (key : SettingKey)
  /-- A name at the top. -/
  | top (name : String)
  deriving DecidableEq

/-- What a document holds at a place. -/
def Place.of? (fields : Fields) : Place → Option Json
  | .within key => (get? key.area fields).bind (·.field? key.name)
  | .top name => get? name fields

/-- The places of options: in a known section, or beside the known sections. -/
def Place.IsOption : Place → Prop
  | .within key => key.area ∈ areas
  | .top name => name ∉ areas

/-- The documents whose known sections are objects, as far as they are there. -/
def IsSectioned (fields : Fields) : Prop :=
  ∀ a ∈ areas, ∀ v, get? a fields = some v → ∃ fs, v = .obj fs

variable {base fields : Fields} {p : Place}

/-- What comes out at a place is what comes out of the two values there. -/
theorem of?_merge (named : (Json.obj fields).IsNamed) (low : IsSectioned base)
    (high : IsSectioned fields) (option : p.IsOption) :
    p.of? (merge base fields) = atop (p.of? base) (p.of? fields) := by
  cases p with
  | top name => exact get?_merge named.names base name
  | within key =>
    rw [Place.of?, Place.of?, Place.of?, get?_merge named.names]
    cases above : get? key.area fields with
    | none => rfl
    | some v =>
      obtain ⟨fs, rfl⟩ := high _ option v above
      cases below : get? key.area base with
      | none => rw [atop_none, Option.bind_none, atop_none]
      | some u =>
        obtain ⟨bs, rfl⟩ := low _ option u below
        exact get?_merge (named.value _ (mem_of_get? above)).names bs key.name

theorem IsSectioned.merge (named : (Json.obj fields).IsNamed) (low : IsSectioned base)
    (high : IsSectioned fields) : IsSectioned (Json.merge base fields) := by
  intro a known v found
  rw [get?_merge named.names] at found
  cases above : get? a fields with
  | none =>
    rw [above] at found
    exact low a known v found
  | some u =>
    obtain ⟨fs, rfl⟩ := high a known u above
    rw [above] at found
    obtain rfl := Option.some.inj found
    rw [mergeValue.eq_def]
    dsimp only
    split <;> exact ⟨_, rfl⟩

/-- The value of two files over a default: the value of the upper file, laid over the one of the
lower file if both have one. -/
def uppermost (ground middle top : Option Json) : Option Json :=
  match top with
  | some v => some (mergeValue middle v)
  | none => middle.or ground

/-- Over a default that is no object the lower file decides what the upper one does not. -/
theorem atop_atop {ground : Option Json} (plain : ∀ base, ground ≠ some (.obj base))
    (middle top : Option Json) : atop (atop ground middle) top = uppermost ground middle top := by
  cases middle with
  | none =>
    cases top with
    | none => rfl
    | some v =>
      rw [atop, atop, uppermost, mergeValue_of_not_obj plain, mergeValue_of_not_obj (by simp)]
  | some u =>
    rw [atop, mergeValue_of_not_obj plain]
    cases top <;> rfl

/-- No option has an object as its default. -/
theorem default_not_obj (option : p.IsOption) (base : Fields) :
    p.of? defaultDocument ≠ some (.obj base) := by
  have tops : ∀ f ∈ defaultDocument, f.1 ∉ areas → f.2.fields?.isNone := by decide
  have settings : ∀ f ∈ defaultDocument, ∀ g ∈ f.2.fields?.getD [], g.2.fields?.isNone := by decide
  intro found
  cases p with
  | top name => exact absurd (tops _ (mem_of_get? found) option) Bool.false_ne_true
  | within key =>
    obtain ⟨v, section_, inside⟩ := Option.bind_eq_some_iff.mp found
    obtain ⟨fs, fields, setting⟩ := Option.bind_eq_some_iff.mp inside
    have mem : (key.name, Json.obj base) ∈ v.fields?.getD [] := by
      rw [fields]
      exact mem_of_get? setting
    exact absurd (settings _ (mem_of_get? section_) _ mem) Bool.false_ne_true

theorem isSectioned_of_forall (h : ∀ f ∈ fields, f.1 ∈ areas → f.2.fields?.isSome) :
    IsSectioned fields := by
  intro a known v found
  have object := h _ (mem_of_get? found) known
  cases v with
  | obj fs => exact ⟨fs, rfl⟩
  | _ => exact absurd object Bool.false_ne_true

theorem isSectioned_default : IsSectioned defaultDocument :=
  isSectioned_of_forall (by decide)

/-! ### Variables -/

/-- A setting is written into its section and nowhere else. -/
theorem assign_of_isSectioned {key : SettingKey} (sections : IsSectioned fields)
    (known : key.area ∈ areas) (v : Json) :
    ∃ after, assign fields key v = .ok after ∧ IsSectioned after ∧
      ∀ p : Place, p.IsOption → p.of? after = if p = .within key then some v else p.of? fields := by
  obtain ⟨fs, found, same⟩ : ∃ fs, (get? key.area fields).getD (.obj []) = .obj fs ∧
      ∀ name, (Place.within ⟨key.area, name⟩).of? fields = get? name fs := by
    cases held : get? key.area fields with
    | none =>
      refine ⟨[], rfl, fun name => ?_⟩
      rw [Place.of?, held]
      rfl
    | some u =>
      obtain ⟨fs, rfl⟩ := sections _ known u held
      refine ⟨fs, rfl, fun name => ?_⟩
      rw [Place.of?, held]
      rfl
  refine ⟨put key.area (.obj (put key.name v fs)) fields, ?_, ?_, ?_⟩
  · rw [assign, found]
  · intro a known u written
    rw [get?_put] at written
    split at written
    · obtain rfl := Option.some.inj written
      exact ⟨_, rfl⟩
    · exact sections a known u written
  · intro p option
    cases p with
    | top name =>
      have other : key.area ≠ name := fun same => option (same ▸ known)
      rw [Place.of?, get?_put, if_neg other, if_neg nofun]
      rfl
    | within other =>
      obtain ⟨area, name⟩ := key
      obtain ⟨area', name'⟩ := other
      rw [Place.of?, get?_put]
      by_cases here : area = area'
      · subst here
        rw [if_pos rfl, Option.bind_some, field?, fields?, Option.bind_some, get?_put, same]
        simp only [Place.within.injEq, SettingKey.mk.injEq, true_and, eq_comm]
      · rw [if_neg here, if_neg]
        · rfl
        · rintro ⟨⟩
          exact here rfl

/-- The value that some writes give to a place. -/
def writtenAt (writes : List (SettingKey × Json)) : Place → Option Json
  | .within key => writes.lookup key
  | .top _ => none

theorem lookup_cons_key {β : Type} (e : SettingKey × β) (l : List (SettingKey × β))
    (key : SettingKey) : (e :: l).lookup key = if key = e.1 then some e.2 else l.lookup key := by
  rw [List.lookup_cons]
  by_cases same : key = e.1
  · rw [beq_iff_eq.mpr same, if_pos same]
  · rw [beq_false_of_ne same, if_neg same]

theorem lookup_eq_none_of_not_mem {β : Type} {l : List (SettingKey × β)} {key : SettingKey}
    (h : key ∉ l.map (·.1)) : l.lookup key = none := by
  induction l with
  | nil => rfl
  | cons e l ih =>
    obtain ⟨other, rest⟩ := not_or.mp (mt List.mem_cons.mpr h)
    rw [lookup_cons_key, if_neg other, ih rest]

theorem assignAll_of_isSectioned {writes : List (SettingKey × Json)}
    (keys : (writes.map (·.1)).Nodup) (known : ∀ e ∈ writes, e.1.area ∈ areas)
    (sections : IsSectioned fields) :
    ∃ after, assignAll fields writes = .ok after ∧ IsSectioned after ∧
      ∀ p : Place, p.IsOption → p.of? after = (writtenAt writes p).or (p.of? fields) := by
  induction writes generalizing fields with
  | nil =>
    refine ⟨fields, rfl, sections, fun p _ => ?_⟩
    cases p <;> rfl
  | cons e writes ih =>
    obtain ⟨fresh, keys⟩ := List.nodup_cons.mp keys
    obtain ⟨first, known⟩ := List.forall_mem_cons.mp known
    obtain ⟨between, done, sections, step⟩ := assign_of_isSectioned sections first e.2
    obtain ⟨after, run, sections, rest⟩ := ih keys known sections
    refine ⟨after, ?_, sections, fun p option => ?_⟩
    · rw [assignAll, List.foldlM_cons, done]
      exact run
    · rw [rest p option, step p option]
      cases p with
      | top name => rfl
      | within key =>
        rw [writtenAt, writtenAt, lookup_cons_key]
        split
        · rename_i same
          obtain rfl : key = e.1 := Place.within.inj same
          rw [if_pos rfl, lookup_eq_none_of_not_mem fresh]
          rfl
        · rename_i other
          rw [if_neg fun same => other (congrArg Place.within same)]

/-- What a variable that is set writes is found under its setting. -/
theorem lookup_writesOf {β : Type} (value? : β → Option Json) {l : List (SettingKey × β)}
    (keys : (l.map (·.1)).Nodup) (key : SettingKey) :
    (writesOf value? l).lookup key = (l.lookup key).bind value? := by
  induction l with
  | nil => rfl
  | cons e l ih =>
    obtain ⟨k, b⟩ := e
    obtain ⟨fresh, keys⟩ := List.nodup_cons.mp keys
    rw [lookup_cons_key, writesOf, List.filterMap_cons]
    cases set : value? b with
    | none =>
      rw [Option.map_none]
      refine (ih keys).trans ?_
      split
      · rename_i same
        subst same
        rw [lookup_eq_none_of_not_mem fresh, Option.bind_some, set]
        rfl
      · rfl
    | some v =>
      dsimp only [Option.map_some]
      rw [lookup_cons_key]
      split
      · rw [Option.bind_some, set]
      · exact ih keys

theorem names_writesOf {β : Type} (value? : β → Option Json) (l : List (SettingKey × β)) :
    ((writesOf value? l).map (·.1)).Sublist (l.map (·.1)) := by
  induction l with
  | nil => exact .slnil
  | cons e l ih =>
    obtain ⟨k, b⟩ := e
    rw [writesOf, List.filterMap_cons]
    cases value? b with
    | none => exact ih.cons _
    | some v => exact ih.cons_cons _

/-- The settings that have a variable. -/
def variableKeys : List SettingKey :=
  textVariables.map (·.1) ++ numberVariables.map (·.1)

theorem names_writes (w : World) : ((writes w).map (·.1)).Sublist variableKeys := by
  rw [writes, List.map_append]
  exact (names_writesOf _ _).append (names_writesOf _ _)

/-- What the variable of a malformed verification says. -/
def haltOf? (w : World) : Option Json :=
  (w.valueOf? haltVariable).map fun raw => .bool (saysYes raw)

/-- What the variables say of a place. -/
def fromVariables (w : World) : Place → Option Json
  | .within key =>
    ((textVariables.lookup key).bind (textOf? w)).or
      ((numberVariables.lookup key).bind (numberOf? w))
  | .top name =>
    if name = "halt_on_malformed" then haltOf? w
    else if name = "default_start_block" then startOf? w
    else none

/-- Under a name at the top, a write changes this name only. -/
theorem of?_put {name : String} (beside : name ∉ areas) (v : Json) (option : p.IsOption) :
    p.of? (put name v fields) = if p = .top name then some v else p.of? fields := by
  cases p with
  | within key =>
    have other : name ≠ key.area := fun same => beside (same ▸ option)
    rw [Place.of?, get?_put, if_neg other, if_neg nofun]
    rfl
  | top other =>
    rw [Place.of?, get?_put]
    simp only [Place.top.injEq, eq_comm]
    rfl

theorem of?_applyHalt (w : World) (option : p.IsOption) :
    p.of? (applyHalt w fields) =
      if p = .top "halt_on_malformed" then (haltOf? w).or (p.of? fields) else p.of? fields := by
  rw [applyHalt, haltOf?]
  cases w.valueOf? haltVariable with
  | none => simp
  | some raw => exact of?_put (by decide) _ option

theorem of?_withStart (w : World) (option : p.IsOption) :
    p.of? (withStart w fields) =
      if p = .top "default_start_block" then (startOf? w).or (p.of? fields) else p.of? fields := by
  rw [withStart]
  cases startOf? w with
  | none => simp
  | some n => exact of?_put (by decide) _ option

/-- Over what stands below, an option is what its variables say. -/
theorem of?_overlaid (sections : IsSectioned fields) (w : World) :
    ∃ after, overlaid w fields = .ok after ∧
      ∀ p : Place, p.IsOption → p.of? after = (fromVariables w p).or (p.of? fields) := by
  have distinct : variableKeys.Nodup := by decide
  have known : ∀ key ∈ variableKeys, key.area ∈ areas := by decide
  have names := names_writes w
  obtain ⟨after, done, -, step⟩ := assignAll_of_isSectioned (distinct.sublist names)
    (fun e mem => known _ (names.subset (List.mem_map_of_mem mem))) sections
  refine ⟨withStart w (applyHalt w after), ?_, fun p option => ?_⟩
  · rw [overlaid, done]
    rfl
  · rw [of?_withStart w option, of?_applyHalt w option, step p option]
    cases p with
    | within key =>
      rw [if_neg (by simp), if_neg (by simp), writtenAt, fromVariables, writes, List.lookup_append,
        lookup_writesOf _ (by decide), lookup_writesOf _ (by decide)]
    | top name =>
      simp only [Place.top.injEq, fromVariables, writtenAt, Option.none_or]
      by_cases halt : name = "halt_on_malformed"
      · rw [if_pos halt, if_pos halt, if_neg (by rw [halt]; decide)]
      · rw [if_neg halt, if_neg halt]
        split <;> simp

/-! ### The options of variables -/

/-- The variables of all options. -/
def owned : List (Place × String) :=
  textVariables.flatMap (fun e => e.2.map fun n => (.within e.1, n)) ++
    numberVariables.map (fun e => (.within e.1, e.2)) ++
    [(.top "halt_on_malformed", haltVariable), (.top "default_start_block", startVariable)]

/-- Whether a variable is one of an option. -/
def Place.Reads (p : Place) (name : String) : Prop :=
  (p, name) ∈ owned

instance (name : String) : Decidable (p.Reads name) :=
  inferInstanceAs (Decidable ((p, name) ∈ owned))

/-- A variable belongs to one option only. -/
theorem Place.Reads.unique {o : Place} {name : String} (h : p.Reads name) (h' : o.Reads name) :
    p = o := by
  have distinct : (owned.map (·.2)).Nodup := by decide
  exact congrArg Prod.fst (List.inj_on_of_nodup_map distinct h h' rfl)

theorem mem_of_lookup {β : Type} {l : List (SettingKey × β)} {key : SettingKey} {b : β}
    (h : l.lookup key = some b) : (key, b) ∈ l := by
  induction l with
  | nil => cases h
  | cons e l ih =>
    rw [lookup_cons_key] at h
    split at h
    · rename_i same
      obtain rfl := Option.some.inj h
      exact same ▸ List.mem_cons_self
    · exact List.mem_cons_of_mem _ (ih h)

theorem reads_of_text {key : SettingKey} {names : List String} (h : (key, names) ∈ textVariables)
    {name : String} (mem : name ∈ names) : (Place.within key).Reads name := by
  refine List.mem_append_left _ (List.mem_append_left _ (List.mem_flatMap.mpr ?_))
  exact ⟨(key, names), h, List.mem_map_of_mem mem⟩

theorem reads_of_number {key : SettingKey} {name : String} (h : (key, name) ∈ numberVariables) :
    (Place.within key).Reads name := by
  refine List.mem_append_left _ (List.mem_append_right _ ?_)
  exact List.mem_map_of_mem (f := fun e : SettingKey × String => (Place.within e.1, e.2)) h

theorem firstValueOf?_congr {w w' : World} {names : List String}
    (same : ∀ n ∈ names, w'.valueOf? n = w.valueOf? n) :
    firstValueOf? w' names = firstValueOf? w names := by
  induction names with
  | nil => rfl
  | cons n names ih =>
    obtain ⟨first, rest⟩ := List.forall_mem_cons.mp same
    rw [firstValueOf?, firstValueOf?, List.findSome?_cons, List.findSome?_cons, first]
    cases present (w.valueOf? n) with
    | none => exact ih rest
    | some s => rfl

/-- What the variables say of an option depends on its own ones. -/
theorem fromVariables_congr {w w' : World}
    (same : ∀ n, p.Reads n → w'.valueOf? n = w.valueOf? n) :
    fromVariables w' p = fromVariables w p := by
  cases p with
  | top name =>
    rw [fromVariables, fromVariables]
    split
    · rename_i halt
      subst halt
      rw [haltOf?, haltOf?, same haltVariable (by decide)]
    · split
      · rename_i start
        subst start
        rw [startOf?, startOf?, same startVariable (by decide)]
      · rfl
  | within key =>
    have texts : (textVariables.lookup key).bind (textOf? w') =
        (textVariables.lookup key).bind (textOf? w) := by
      cases found : textVariables.lookup key with
      | none => rfl
      | some names =>
        rw [Option.bind_some, Option.bind_some, textOf?, textOf?,
          firstValueOf?_congr fun n mem => same n (reads_of_text (mem_of_lookup found) mem)]
    have numbers : (numberVariables.lookup key).bind (numberOf? w') =
        (numberVariables.lookup key).bind (numberOf? w) := by
      cases found : numberVariables.lookup key with
      | none => rfl
      | some name =>
        rw [Option.bind_some, Option.bind_some, numberOf?, numberOf?,
          same name (reads_of_number (mem_of_lookup found))]
    rw [fromVariables, fromVariables, texts, numbers]

theorem fromVariables_text (w : World) {key : SettingKey} {names : List String}
    (h : (key, names) ∈ textVariables) : fromVariables w (.within key) = textOf? w names := by
  have found : ∀ e ∈ textVariables,
      textVariables.lookup e.1 = some e.2 ∧ numberVariables.lookup e.1 = none := by decide
  obtain ⟨text, number⟩ := found _ h
  rw [fromVariables, text, number, Option.bind_some, Option.bind_none, Option.or_none]

theorem fromVariables_number (w : World) {key : SettingKey} {name : String}
    (h : (key, name) ∈ numberVariables) : fromVariables w (.within key) = numberOf? w name := by
  have found : ∀ e ∈ numberVariables,
      textVariables.lookup e.1 = none ∧ numberVariables.lookup e.1 = some e.2 := by decide
  obtain ⟨text, number⟩ := found _ h
  rw [fromVariables, text, number, Option.bind_none, Option.bind_some, Option.none_or]

/-- The variables say nothing of an option that has none. -/
theorem fromVariables_of_not_reads (w : World) (h : ∀ n, ¬ p.Reads n) :
    fromVariables w p = none := by
  have bare : fromVariables { w with environment := [] } p = fromVariables w p :=
    fromVariables_congr fun n reads => absurd reads (h n)
  rw [← bare]
  cases p with
  | top name =>
    rw [fromVariables]
    split
    · rfl
    · split <;> rfl
  | within key =>
    rw [fromVariables, Option.or_eq_none_iff]
    refine ⟨Option.bind_eq_none_iff.mpr fun names _ => ?_,
      Option.bind_eq_none_iff.mpr fun name _ => rfl⟩
    rw [textOf?, Option.map_eq_none_iff, firstValueOf?, List.findSome?_eq_none_iff]
    exact fun _ _ => rfl

/-! ### All layers -/

/-- What the files hold from which settings are loaded, where the known sections of both are
objects. -/
structure Layers (w : World) (asked workspace : Option Path) (below above : Fields) : Prop where
  /-- The file of the operator, which holds the lower layer. -/
  operator : ∃ file, operatorFile w asked = .ok file ∧ w.files.layerOf file = .ok below
  /-- The file of the workspace, which holds the upper one. -/
  workspace : w.files.layerOf (workspace.map workspaceFile) = .ok above
  /-- The known sections of the lower layer. -/
  below_sectioned : IsSectioned below
  /-- The known sections of the upper layer. -/
  above_sectioned : IsSectioned above

/-- What the files and the defaults say of a place. -/
def fileValue? (below above : Fields) (p : Place) : Option Json :=
  uppermost (p.of? defaultDocument) (p.of? below) (p.of? above)

theorem isNamed_layerOf {t : FileTree} {file : Option Path} {layer : Fields}
    (h : t.layerOf file = .ok layer) : (Json.obj layer).IsNamed := by
  have empty : (Json.obj []).IsNamed := .obj .nil (by simp)
  cases file with
  | none => cases h; exact empty
  | some p =>
    rw [FileTree.layerOf, FileTree.layerAt] at h
    split at h
    · cases h
    · cases h; exact empty
    · rw [FileTree.layer] at h
      split at h
      · cases h; exact empty
      · cases h
      · split at h
        · split at h
          · cases h; exact empty
          · cases h
        · rename_i read
          cases h
          exact isNamed_of_read read
        · cases h; exact empty

variable {w : World} {asked workspace : Option Path} {below above : Fields}

/-- The document of all layers, at the place of an option. -/
theorem document_of_layers (h : Layers w asked workspace below above) :
    ∃ fields, document w asked workspace = .ok fields ∧
      ∀ p : Place, p.IsOption →
        p.of? fields = (fromVariables w p).or (fileValue? below above p) := by
  obtain ⟨file, found, read⟩ := h.operator
  have lower := isNamed_layerOf read
  have upper := isNamed_layerOf h.workspace
  have sections := isSectioned_default.merge lower h.below_sectioned
  obtain ⟨fields, done, step⟩ := of?_overlaid (sections.merge upper h.above_sectioned) w
  refine ⟨fields, ?_, fun p option => ?_⟩
  · rw [document, found]
    change (fileDocument w.files file workspace >>= fun layers => overlaid w layers.1) = _
    rw [fileDocument, read, h.workspace]
    exact done
  · rw [step p option, of?_merge upper sections h.above_sectioned option,
      of?_merge lower isSectioned_default h.below_sectioned option,
      atop_atop (default_not_obj option), fileValue?]

/-- Which layer decides each option. -/
structure Decided (w : World) (below above fields : Fields) : Prop where
  /-- An option with variables that are texts: the first of them that is not empty, or the files. -/
  texts : ∀ key names, (key, names) ∈ textVariables →
    Place.of? fields (.within key) =
      ((firstValueOf? w names).map fun s => .str (trimmed s)).or
        (fileValue? below above (.within key))
  /-- An option with a variable that is a number: the variable if it writes one, or the files. -/
  numbers : ∀ key name, (key, name) ∈ numberVariables →
    Place.of? fields (.within key) = (numberOf? w name).or (fileValue? below above (.within key))
  /-- The first block: the variable if it writes a whole number, or the files. -/
  start : Place.of? fields (.top "default_start_block") =
    (startOf? w).or (fileValue? below above (.top "default_start_block"))
  /-- What a malformed verification does: the variable if it is there, or the files. -/
  halt : Place.of? fields (.top "halt_on_malformed") =
    (haltOf? w).or (fileValue? below above (.top "halt_on_malformed"))
  /-- An option without a variable: the files. -/
  others : ∀ p : Place, p.IsOption → (∀ n, ¬ p.Reads n) → p.of? fields = fileValue? below above p

/-- Two situations that differ in one option at most. -/
structure AgreeBeside (o : Place) (w w' : World) (below below' above above' : Fields) : Prop where
  /-- The variables of other options. -/
  environment : ∀ n, ¬ o.Reads n → w'.valueOf? n = w.valueOf? n
  /-- The lower layer at other places. -/
  below : ∀ p : Place, p.IsOption → p ≠ o → p.of? below' = p.of? below
  /-- The upper layer at other places. -/
  above : ∀ p : Place, p.IsOption → p ≠ o → p.of? above' = p.of? above

/-- Each option is decided by its variables, and then by the uppermost of the files that has it;
whatever is said of one option in any layer, no other option changes. -/
theorem load_precedence (h : Layers w asked workspace below above) :
    ∃ fields, (gather asked workspace).Finds w (.ok fields) ∧
      (load asked workspace).Finds w
        (ofFields fields (workspace.getD (FileTree.pathOf w.files.here))) ∧
      Decided w below above fields ∧
      ∀ o w' asked' workspace' below' above' fields', Layers w' asked' workspace' below' above' →
        (gather asked' workspace').Finds w' (.ok fields') →
        AgreeBeside o w w' below below' above above' →
        ∀ p : Place, p.IsOption → p ≠ o → p.of? fields' = p.of? fields := by
  have textKeys : ∀ e ∈ textVariables, e.1.area ∈ areas := by decide
  have numberKeys : ∀ e ∈ numberVariables, e.1.area ∈ areas := by decide
  have start : "default_start_block" ∉ areas := by decide
  have halt : "halt_on_malformed" ∉ areas := by decide
  obtain ⟨fields, found, decided⟩ := document_of_layers h
  refine ⟨fields, ?_, ?_, ?_, ?_⟩
  · exact found ▸ gather_finds asked workspace w
  · have loaded := load_finds asked workspace w
    rw [found] at loaded
    exact loaded
  · refine ⟨fun key names mem => ?_, fun key name mem => ?_, ?_, ?_, fun p option none => ?_⟩
    · rw [decided (.within key) (textKeys _ mem), fromVariables_text w mem, textOf?]
    · rw [decided (.within key) (numberKeys _ mem), fromVariables_number w mem]
    · exact decided (.top "default_start_block") start
    · exact decided (.top "halt_on_malformed") halt
    · rw [decided p option, fromVariables_of_not_reads w none, Option.none_or]
  · intro o w' asked' workspace' below' above' fields' h' finds agree p option other
    obtain ⟨_, found', decided'⟩ := document_of_layers h'
    have same := (gather_finds asked' workspace' w').unique finds
    rw [found'] at same
    obtain rfl := Except.ok.inj same
    have own : ∀ n, p.Reads n → w'.valueOf? n = w.valueOf? n := fun n reads =>
      agree.environment n fun reads' => other (reads.unique reads')
    rw [decided p option, decided' p option, fromVariables_congr own, fileValue?, fileValue?,
      agree.below p option other, agree.above p option other]

/-- A world with a file of the operator and a file of the workspace `/run`. -/
def layeredWorld (below above : String) : World :=
  { sampleWorld with
    files :=
      ⟨[(["home"], .directory FileTree.directoryMode),
        (["home", "config.json"], .file (Utf8.ofString below) FileTree.fileMode),
        (["run"], .directory FileTree.directoryMode),
        (["run", ".blockprover"], .directory FileTree.directoryMode),
        (["run", ".blockprover", "config.json"],
          .file (Utf8.ofString above) FileTree.fileMode)], []⟩
    environment := [("BLOCKPROVER_HOME", "/home"), ("PROVER_HASH", " aa ")] }

theorem load_precedence_sample :
    let w := layeredWorld "\x7b\"network\": \x7b\"cli\": \"/bin/g\"\x7d\x7d"
      "\x7b\"network\": \x7b\"cli\": null\x7d\x7d"
    Layers w none (some ⟨"/", ["run"]⟩) [("network", .obj [("cli", .str "/bin/g")])]
        [("network", .obj [("cli", .null)])] ∧
      ∃ fields, (gather none (some ⟨"/", ["run"]⟩)).Finds w (.ok fields) ∧
        Place.of? fields (.within ⟨"network", "cli"⟩) = some .null ∧
        Place.of? fields (.within ⟨"programs", "prover_hash"⟩) = some (.str "aa") := by
  intro w
  have layers : Layers w none (some ⟨"/", ["run"]⟩) [("network", .obj [("cli", .str "/bin/g")])]
      [("network", .obj [("cli", .null)])] :=
    ⟨⟨some ⟨"/", ["home", "config.json"]⟩, by decide +kernel, by decide +kernel⟩,
      by decide +kernel, isSectioned_of_forall (by decide), isSectioned_of_forall (by decide)⟩
  obtain ⟨fields, finds, -, decided, -⟩ := load_precedence layers
  refine ⟨layers, fields, finds, ?_, ?_⟩
  · rw [decided.texts _ ["BLOCKPROVER_NETWORK_CLI", "GEVULOT_CLI"] (by decide)]
    decide +kernel
  · rw [decided.texts _ ["BLOCKPROVER_PROVER_HASH", "PROVER_HASH"] (by decide)]
    decide +kernel

/-- Two objects for one option are laid over each other, so that the upper file does not decide
alone. -/
theorem objects_merged :
    let w := layeredWorld "\x7b\"chain\": \x7b\"rpc_url\": \x7b\"b\": 2\x7d\x7d\x7d"
      "\x7b\"chain\": \x7b\"rpc_url\": \x7b\"a\": 1\x7d\x7d\x7d"
    ∃ names below above fields, (⟨"chain", "rpc_url"⟩, names) ∈ textVariables ∧
      Layers w none (some ⟨"/", ["run"]⟩) below above ∧
      (gather none (some ⟨"/", ["run"]⟩)).Finds w (.ok fields) ∧
      firstValueOf? w names = none ∧
      Place.of? above (.within ⟨"chain", "rpc_url"⟩) = some (.obj [("a", .int 1)]) ∧
      Place.of? fields (.within ⟨"chain", "rpc_url"⟩) =
        some (.obj [("b", .int 2), ("a", .int 1)]) := by
  intro w
  have layers : Layers w none (some ⟨"/", ["run"]⟩)
      [("chain", .obj [("rpc_url", .obj [("b", .int 2)])])]
      [("chain", .obj [("rpc_url", .obj [("a", .int 1)])])] :=
    ⟨⟨some ⟨"/", ["home", "config.json"]⟩, by decide +kernel, by decide +kernel⟩,
      by decide +kernel, isSectioned_of_forall (by decide), isSectioned_of_forall (by decide)⟩
  obtain ⟨fields, found, decided⟩ := document_of_layers layers
  have gathered := gather_finds none (some ⟨"/", ["run"]⟩) w
  rw [found] at gathered
  refine ⟨["BLOCKPROVER_RPC_URL", "KATLA_ENDPOINT"], _, _, fields, by decide, layers, gathered,
    by decide +kernel, by decide +kernel, ?_⟩
  have known : "chain" ∈ areas := by decide
  rw [decided (.within ⟨"chain", "rpc_url"⟩) known]
  decide +kernel

end Settings

end ProofRelay
