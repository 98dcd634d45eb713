import ProofRelay.Proofs.Settings.Loading

/-!
# Layers that can be put together

The layers of all files and variables make a document if three things are so.  The home of the
operator is known, since its directory is looked for even when another file is asked for.  Each file
is legible: what can be read of it is a text, and there is no number in it with too many digits.
And the variables find objects in the sections that they write into, or no sections.  Then the
document is made by plain steps, none of which can fail.

## Main definitions

* `World.KnowsHome` : the home of the operator is known.
* `FileTree.IsLegible` : files that give a layer.
* `Settings.layered`, `Settings.withVariables` : the layers of files, and the variables on top.

## Main results

* `FileTree.exists_layerAt_iff` : which files give a layer.
* `Settings.assignAll_eq_ok_iff` : when values can be written into their sections.
* `Settings.document_eq_ok_iff` : when there is a document of all layers, and which one.
-/

namespace ProofRelay

open ProofRelay.Text

/-! ### The home of the operator -/

/-- Whether the home of the operator is known: a variable names the directory of the operator's
files, or the home is told, by the environment or for the account, and is not itself written
relative to a home. -/
def World.KnowsHome (w : World) : Prop :=
  (present (w.valueOf? "BLOCKPROVER_HOME")).isSome = true ∨
    ∃ written, (w.valueOf? "HOME").or w.host.home = some written ∧
      (dropEndWhile (· == '/') written).toList.head? ≠ some '~'

/-- The file of the operator is found exactly if the home is known, also when another one is asked
for. -/
theorem Settings.exists_operatorFile_iff {w : World} (asked : Option Path) :
    (∃ file, operatorFile w asked = .ok file) ↔ w.KnowsHome := by
  have found : (∃ file, operatorFile w asked = .ok file) ↔ ∃ d, homeDirectory w = .ok d := by
    rw [operatorFile]
    cases homeDirectory w with
    | error f => simp [bind, Except.bind]
    | ok d =>
      refine iff_of_true ?_ ⟨d, rfl⟩
      cases asked with
      | some p => exact ⟨some p, rfl⟩
      | none =>
        cases (present (w.valueOf? "PYTEST_CURRENT_TEST")).isSome
        · exact ⟨some _, rfl⟩
        · exact ⟨none, rfl⟩
  rw [found, World.KnowsHome, homeDirectory, home]
  cases present (w.valueOf? "BLOCKPROVER_HOME") with
  | some d => exact iff_of_true ⟨_, rfl⟩ (.inl rfl)
  | none =>
    cases (w.valueOf? "HOME").or w.host.home with
    | none => simp [Except.map]
    | some written =>
      by_cases relative : (dropEndWhile (· == '/') written).toList.head? = some '~' <;>
        simp [Except.map, relative]

/-! ### Files -/

namespace FileTree

variable {t : FileTree} {p : Path}

/-- Whether a file gives a layer, which may be an empty one. -/
structure IsLegible (t : FileTree) (p : Path) : Prop where
  /-- It can be looked for. -/
  short : p.hasNull = false → t.status p ≠ .error .nameTooLong
  /-- What can be read of it is a text, and no number in it has too many digits. -/
  text : p.hasNull = false → ∀ bytes, t.readBytes p = .ok bytes →
    ∃ s, Utf8.decode bytes = .ok s ∧
      ∀ e, Json.read (String.ofList (plainLines s)) = .error e → e.isOfForm = true

/-- Where there is something, the layer is told by the bytes that can be read. -/
theorem exists_layer_iff :
    (∃ layer, t.layer p = .ok layer) ↔ ∀ bytes, t.readBytes p = .ok bytes →
      ∃ s, Utf8.decode bytes = .ok s ∧
        ∀ e, Json.read (String.ofList (plainLines s)) = .error e → e.isOfForm = true := by
  rw [layer, readText]
  cases read : t.readBytes p with
  | error f =>
    obtain ⟨problem, rfl⟩ : ∃ problem, f = .file problem := by
      rw [readBytes] at read
      split at read <;> cases read <;> exact ⟨_, rfl⟩
    exact iff_of_true ⟨[], rfl⟩ fun _ wrong => by cases wrong
  | ok bytes =>
    simp only [Except.ok.injEq, forall_eq']
    cases Utf8.decode bytes with
    | error e => simp
    | ok s =>
      simp only [Except.ok.injEq, exists_eq_left']
      cases Json.read (String.ofList (plainLines s)) with
      | error e => cases form : e.isOfForm <;> simp [form]
      | ok v =>
        refine iff_of_true ?_ fun _ wrong => by cases wrong
        cases v <;> exact ⟨_, rfl⟩

/-- The files that give a layer are the legible ones. -/
theorem exists_layerAt_iff : (∃ layer, t.layerAt p = .ok layer) ↔ t.IsLegible p := by
  rw [layerAt, probe]
  cases whole : p.hasNull with
  | true =>
    have part : p.hasNull ≠ false := by rw [whole]; decide
    exact iff_of_true ⟨[], rfl⟩ ⟨fun h => absurd h part, fun h => absurd h part⟩
  | false =>
    rw [if_neg Bool.false_ne_true]
    cases found : t.status p with
    | ok e =>
      rw [exists_layer_iff]
      have short : t.status p ≠ .error .nameTooLong := by simp [found]
      exact ⟨fun text => ⟨fun _ => short, fun _ => text⟩, fun h => h.text whole⟩
    | error problem =>
      have unread : ∀ bytes, t.readBytes p ≠ .ok bytes := by
        intro bytes
        simp [readBytes, refused, found]
      cases problem with
      | nameTooLong =>
        exact iff_of_false (by rintro ⟨layer, ⟨⟩⟩) fun h => h.short whole found
      | _ =>
        exact iff_of_true ⟨[], rfl⟩
          ⟨fun _ => by simp [found], fun _ bytes read => absurd read (unread bytes)⟩

end FileTree

namespace Settings

/-- The layers of files over the standard settings; a file that gives none is passed over. -/
def layered (t : FileTree) (files : List Path) : Json.Fields :=
  files.foldl (fun fields p => Json.merge fields ((t.layerAt p).toOption.getD [])) defaultDocument

/-- The files of a run, the operator's before the one of the workspace. -/
def settingsFiles (w : World) (asked workspace : Option Path) : List Path :=
  ((operatorFile w asked).toOption.bind id).toList ++ (workspace.map workspaceFile).toList

theorem exists_layerOf_iff {t : FileTree} {file : Option Path} :
    (∃ layer, t.layerOf file = .ok layer) ↔ ∀ p ∈ file.toList, t.IsLegible p := by
  cases file with
  | none => simp [FileTree.layerOf]
  | some p => simp [FileTree.layerOf, FileTree.exists_layerAt_iff]

theorem layered_of_layerOf {t : FileTree} {operator workspace : Option Path}
    {below above : Json.Fields} (lower : t.layerOf operator = .ok below)
    (upper : t.layerOf workspace = .ok above) :
    layered t (operator.toList ++ workspace.toList) =
      Json.merge (Json.merge defaultDocument below) above := by
  have one : ∀ {file layer} base, t.layerOf file = .ok layer →
      file.toList.foldl (fun fields p => Json.merge fields ((t.layerAt p).toOption.getD [])) base =
        Json.merge base layer := by
    intro file layer base read
    cases file with
    | none =>
      obtain rfl := Except.ok.inj read
      exact (Json.merge_nil base).symm
    | some p =>
      rw [FileTree.layerOf] at read
      simp [read, Except.toOption]
  rw [layered, List.foldl_append, one _ lower, one _ upper]

/-! ### Variables -/

/-- A document with a value written into its section, which is made if it is missing. -/
def written (fields : Json.Fields) (e : SettingKey × Json) : Json.Fields :=
  Json.put e.1.area (.obj (Json.put e.1.name e.2 ((area fields e.1.area).fields?.getD []))) fields

/-- A document with all variables of the environment on top. -/
def withVariables (w : World) (fields : Json.Fields) : Json.Fields :=
  withStart w (applyHalt w ((writes w).foldl written fields))

variable {fields after : Json.Fields} {e : SettingKey × Json}

/-- A value can be written into a section that is an object or missing. -/
theorem assign_eq_ok_iff : assign fields e.1 e.2 = .ok after ↔
    (∃ fs, area fields e.1.area = .obj fs) ∧ after = written fields e := by
  rw [assign, written, area]
  cases (Json.get? e.1.area fields).getD (.obj []) with
  | obj fs => simp [Json.fields?, eq_comm]
  | _ => simp [Json.mismatch]

/-- Its section is an object then, and no other one is another. -/
theorem exists_area_written_iff {name : String} (object : ∃ fs, area fields e.1.area = .obj fs) :
    (∃ fs, area (written fields e) name = .obj fs) ↔ ∃ fs, area fields name = .obj fs := by
  rw [area, written, Json.get?_put]
  split
  · next same => exact iff_of_true ⟨_, rfl⟩ (same ▸ object)
  · rfl

/-- Values can be written into sections that are objects or missing. -/
theorem assignAll_eq_ok_iff {l : List (SettingKey × Json)} : assignAll fields l = .ok after ↔
    (∀ e ∈ l, ∃ fs, area fields e.1.area = .obj fs) ∧ after = l.foldl written fields := by
  induction l generalizing fields with
  | nil => simp [assignAll, pure, Except.pure, eq_comm]
  | cons e l ih =>
    rw [assignAll, List.foldlM_cons, List.forall_mem_cons, List.foldl_cons]
    cases put : assign fields e.1 e.2 with
    | error f =>
      refine iff_of_false (by rintro ⟨⟩) fun h => ?_
      rw [assign_eq_ok_iff.mpr ⟨h.1.1, rfl⟩] at put
      cases put
    | ok next =>
      obtain ⟨object, rfl⟩ := assign_eq_ok_iff.mp put
      change assignAll (written fields e) l = _ ↔ _
      rw [ih]
      simp only [exists_area_written_iff object, object, true_and]

theorem overlaid_eq_ok_iff {w : World} : overlaid w fields = .ok after ↔
    (∀ e ∈ writes w, ∃ fs, area fields e.1.area = .obj fs) ∧ after = withVariables w fields := by
  rw [overlaid, withVariables]
  constructor
  · intro done
    cases assigned : assignAll fields (writes w) with
    | error f => rw [assigned] at done; cases done
    | ok next =>
      rw [assigned] at done
      obtain ⟨objects, rfl⟩ := assignAll_eq_ok_iff.mp assigned
      exact ⟨objects, (Except.ok.inj done).symm⟩
  · rintro ⟨objects, rfl⟩
    rw [assignAll_eq_ok_iff.mpr ⟨objects, rfl⟩]
    rfl

/-! ### All layers -/

/-- There is a document of all layers exactly if the operator's home is known, the files are
legible, and the variables find their sections; then it is the layers of the files with the
variables on top.
-/
theorem document_eq_ok_iff {w : World} {asked workspace : Option Path} :
    document w asked workspace = .ok fields ↔
      w.KnowsHome ∧ (∀ p ∈ settingsFiles w asked workspace, w.files.IsLegible p) ∧
        (∀ e ∈ writes w, ∃ fs,
          area (layered w.files (settingsFiles w asked workspace)) e.1.area = .obj fs) ∧
        fields = withVariables w (layered w.files (settingsFiles w asked workspace)) := by
  rw [document, settingsFiles]
  cases known : operatorFile w asked with
  | error f =>
    refine iff_of_false (by rintro ⟨⟩) fun h => ?_
    obtain ⟨file, found⟩ := (exists_operatorFile_iff asked).mpr h.1
    cases known.symm.trans found
  | ok file =>
    have home : w.KnowsHome := (exists_operatorFile_iff asked).mp ⟨file, known⟩
    have files : ((Except.ok file : Except Fault (Option Path)).toOption.bind id) = file := by
      cases file <;> rfl
    rw [files]
    simp only [home, true_and, List.forall_mem_append, ← exists_layerOf_iff]
    change ((fileDocument w.files file workspace >>= _) = _) ↔ _
    rw [fileDocument]
    cases lower : w.files.layerOf file with
    | error f => exact iff_of_false (by rintro ⟨⟩) (by rintro ⟨⟨⟨_, ⟨⟩⟩, -⟩, -⟩)
    | ok below =>
      cases upper : w.files.layerOf (workspace.map workspaceFile) with
      | error f => exact iff_of_false (by rintro ⟨⟩) (by rintro ⟨⟨-, ⟨_, ⟨⟩⟩⟩, -⟩)
      | ok above =>
        rw [layered_of_layerOf lower upper]
        change overlaid w _ = _ ↔ _
        rw [overlaid_eq_ok_iff]
        simp

end Settings

end ProofRelay
