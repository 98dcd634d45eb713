import ProofRelay.Proofs.World.Conduct
import ProofRelay.Settings.Load

/-!
# What loading finds

Settings are loaded in steps that look at files and variables and write log lines.  Nothing else is
changed on the way, so that what the steps find is a function of the world in which they begin: the
layers of the files are merged, the variables of the environment are written over them, and the
settings are read from the document that comes out.

A file that was used is looked at once more for a secret; what it holds was readable then, so that
this last look finds nothing new.

## Main definitions

* `Activity.Finds` : activities that give a value and write no more than log lines.
* `FileTree.layer`, `FileTree.layerAt` : the layer of a file.
* `Settings.fileDocument`, `Settings.overlaid` : the layers of all files, and the variables on top.
* `Settings.gather`, `Settings.document` : the steps in front of the reading of settings, and the
  document that they find.

## Main results

* `Settings.load_eq` : settings are loaded by reading what was gathered.
* `Settings.gather_finds`, `Settings.load_finds` : what the steps find.
-/

namespace ProofRelay

open Activity ProofRelay.Text ProofRelay.Decimal

/-! ### Activities that find something -/

/-- Whether an entry of the journal is a log line. -/
def Event.IsLine (e : Event) : Prop :=
  ∃ level source message, e = .log level source message

namespace Activity

variable {α β : Type} {a : Activity α} {f : α → Activity β} {g : α → Except Fault β} {w : World}
  {x : Except Fault α}

/-- Whether an activity that is begun in a world gives a value or a fault, and writes no more than
log lines. -/
def Finds (a : Activity α) (w : World) (x : Except Fault α) : Prop :=
  ∃ lines, (∀ e ∈ lines, e.IsLine) ∧ a.runIn w = (x.mapError .fault, w.withLines lines)

/-- What an activity gives is determined. -/
theorem Finds.unique {y : Except Fault α} (h : a.Finds w x) (h' : a.Finds w y) : x = y := by
  obtain ⟨lines, -, run⟩ := h
  obtain ⟨lines', -, run'⟩ := h'
  have same : x.mapError Interruption.fault = y.mapError .fault :=
    congrArg Prod.fst (run.symm.trans run')
  cases x <;> cases y <;> cases same <;> rfl

theorem Finds.ofExcept (x : Except Fault α) : (ofExcept x).Finds w x :=
  ⟨[], by simp, runIn_ofExcept x w⟩

theorem Finds.pure (y : α) : (Pure.pure y : Activity α).Finds w (.ok y) := .ofExcept (.ok y)

theorem Finds.fail (e : Fault) : (fail e : Activity α).Finds w (.error e) := .ofExcept (.error e)

theorem Finds.log (level : Level) (source message : String) :
    (ProofRelay.log level source message).Finds w (.ok ()) :=
  ⟨[.log level source message], by simp [Event.IsLine], rfl⟩

/-- A look at the world comes first. -/
theorem Finds.get_bind {f : World → Activity α} (h : (f w).Finds w x) : (get >>= f).Finds w x := by
  obtain ⟨lines, logs, run⟩ := h
  exact ⟨lines, logs, by rw [runIn_bind_ok (runIn_get w), run]⟩

/-- The second of two activities is begun with some log lines more. -/
theorem Finds.bind (h : a.Finds w x)
    (hf : ∀ y lines, x = .ok y → (f y).Finds (w.withLines lines) (g y)) :
    (a >>= f).Finds w (x >>= g) := by
  obtain ⟨lines, logs, run⟩ := h
  cases x with
  | error e => exact ⟨lines, logs, runIn_bind_error run f⟩
  | ok y =>
    obtain ⟨more, logs', run'⟩ := hf y lines rfl
    refine ⟨more ++ lines, ?_, ?_⟩
    · intro e he
      exact (List.mem_append.mp he).elim (logs' e) (logs e)
    · rw [runIn_bind_ok run, run', World.withLines_withLines]
      rfl

/-- An activity of which it is known what it gives comes first. -/
theorem Finds.ok_bind {b : Activity β} {f : β → Activity α} {y : β} (h : b.Finds w (.ok y))
    (hf : ∀ lines, (f y).Finds (w.withLines lines) x) : (b >>= f).Finds w x := by
  refine h.bind (g := fun _ => x) ?_
  rintro _ lines ⟨⟩
  exact hf lines

/-- A fault ends what comes after it. -/
theorem Finds.error_bind {b : Activity β} {f : β → Activity α} {e : Fault}
    (h : b.Finds w (.error e)) : (b >>= f).Finds w (.error e) :=
  h.bind (g := fun _ => .error e) nofun

/-- Log lines come last. -/
theorem Finds.bind_lines {f : α → Activity β} {y : α → β} (h : a.Finds w x)
    (hf : ∀ z lines, x = .ok z → (f z).Finds (w.withLines lines) (.ok (y z))) :
    (a >>= f).Finds w (x.map y) := by
  have both := h.bind (g := fun z => .ok (y z)) hf
  cases x <;> exact both

/-- Log lines come last, and what was given stays. -/
theorem Finds.bind_same {f : α → Activity α} (h : a.Finds w x)
    (hf : ∀ z lines, x = .ok z → (f z).Finds (w.withLines lines) (.ok z)) :
    (a >>= f).Finds w x := by
  have both := h.bind_lines (y := id) hf
  cases x <;> exact both

theorem Finds.forM {γ : Type} {l : List γ} {f : γ → Activity Unit}
    (h : ∀ c ∈ l, ∀ lines, (f c).Finds (w.withLines lines) (.ok ())) :
    (l.forM f).Finds w (.ok ()) := by
  induction l generalizing w with
  | nil => exact .pure ()
  | cons c l ih =>
    obtain ⟨first, rest⟩ := List.forall_mem_cons.mp h
    rw [List.forM_eq_forM, List.forM_cons]
    refine .ok_bind (first []) fun lines => ih fun d hd more => ?_
    rw [World.withLines_withLines]
    exact rest d hd _

end Activity

/-! ### Files -/

namespace FileTree

variable (t : FileTree)

/-- The layer of a file.  A file that cannot be read gives an empty layer, and so does one that
holds no document or no object; bytes that are no text, and a whole number with too many digits, are
a fault. -/
def layer (p : Path) : Except Fault Json.Fields :=
  match t.readText p with
  | .error (.file _) => .ok []
  | .error f => .error f
  | .ok text =>
    match Json.read text with
    | .error e => if e.isOfForm then .ok [] else .error (.value (e.message text.toList))
    | .ok (.obj fs) => .ok fs
    | .ok _ => .ok []

/-- The layer of a file that may be missing. -/
def layerAt (p : Path) : Except Fault Json.Fields :=
  match t.probe p with
  | .error f => .error f
  | .ok none => .ok []
  | .ok (some _) => t.layer p

/-- The layer of a file that may not be asked for. -/
def layerOf : Option Path → Except Fault Json.Fields
  | some p => t.layerAt p
  | none => .ok []

end FileTree

namespace Settings

/-- The files of a layer that were used: an empty one is passed over. -/
def usedFiles (file : Option Path) (layer : Json.Fields) : List Path :=
  if layer.isEmpty then [] else file.toList

/-- The document of all files, and the files that were used. -/
def fileDocument (t : FileTree) (operator workspace : Option Path) :
    Except Fault (Json.Fields × List Path) := do
  let below ← t.layerOf operator
  let above ← t.layerOf (workspace.map workspaceFile)
  return (Json.merge (Json.merge defaultDocument below) above,
    usedFiles operator below ++ usedFiles (workspace.map workspaceFile) above)

variable {w : World}

theorem readLayer_finds (p : Path) (w : World) : (readLayer p).Finds w (w.files.layer p) := by
  have dropped : ∀ reason, (unreadable p reason).Finds w (.ok []) :=
    fun reason => .ok_bind (.log _ _ _) fun _ => .pure []
  rw [readLayer, FileTree.layer]
  refine .get_bind ?_
  cases w.files.readText p with
  | error f =>
    cases f with
    | file f => exact dropped _
    | setting | stage | defect => exact .fail _
  | ok text =>
    cases decoded : Json.read text with
    | error e =>
      cases form : e.isOfForm with
      | true => simpa only [decoded, form, if_true] using dropped _
      | false => simpa only [decoded, form, Bool.false_eq_true, if_false] using .fail _
    | ok v =>
      simp only [decoded]
      cases v <;> exact .pure _

/-- A file of which it is known what is at its path. -/
theorem entryAt_finds (p : Path) (w : World) : (entryAt p).Finds w (w.files.probe p) :=
  .get_bind (.ofExcept _)

theorem addFile_finds (p : Path) (layers : Json.Fields × List Path) (w : World) :
    (addFile p layers).Finds w ((w.files.layerAt p).map fun layer =>
      (Json.merge layers.1 layer, layers.2 ++ usedFiles (some p) layer)) := by
  have looked := entryAt_finds p w
  rw [addFile, FileTree.layerAt]
  cases probed : w.files.probe p with
  | error f =>
    rw [probed] at looked
    exact looked.error_bind
  | ok entry =>
    rw [probed] at looked
    refine looked.ok_bind fun lines => ?_
    cases entry with
    | none => simpa [usedFiles, Except.map] using Finds.pure layers
    | some e =>
      refine (readLayer_finds p (w.withLines lines)).bind_lines fun layer more _ => ?_
      cases empty : layer.isEmpty with
      | true =>
        obtain rfl := List.isEmpty_iff.mp empty
        simpa [usedFiles] using Finds.pure layers
      | false =>
        simp only [usedFiles, empty, Bool.false_eq_true, if_false]
        exact .pure _

/-- Layers with a file on top that may not be asked for. -/
def addLayerOf (file : Option Path) (layers : Json.Fields × List Path) :
    Activity (Json.Fields × List Path) :=
  match file with
  | some p => addFile p layers
  | none => pure layers

theorem addLayerOf_finds (file : Option Path) (layers : Json.Fields × List Path) (w : World) :
    (addLayerOf file layers).Finds w ((w.files.layerOf file).map fun layer =>
      (Json.merge layers.1 layer, layers.2 ++ usedFiles file layer)) := by
  cases file with
  | none => simpa [addLayerOf, FileTree.layerOf, usedFiles, Except.map] using Finds.pure layers
  | some p => exact addFile_finds p layers w

theorem fileLayers_eq (operator workspace : Option Path) :
    fileLayers operator workspace =
      addLayerOf operator (defaultDocument, []) >>= addLayerOf (workspace.map workspaceFile) := by
  cases operator <;> cases workspace <;> rfl

theorem fileLayers_finds (operator workspace : Option Path) (w : World) :
    (fileLayers operator workspace).Finds w (fileDocument w.files operator workspace) := by
  have below := addLayerOf_finds operator (defaultDocument, []) w
  have above := fun layers lines =>
    addLayerOf_finds (workspace.map workspaceFile) layers (w.withLines lines)
  rw [fileLayers_eq, fileDocument]
  cases read : w.files.layerOf operator with
  | error f =>
    rw [read] at below
    exact below.error_bind
  | ok layer =>
    rw [read] at below
    exact below.ok_bind (above _)

/-- A file that was used is legible. -/
theorem layer_of_usedFiles {t : FileTree} {file : Option Path} {layer : Json.Fields}
    (read : t.layerOf file = .ok layer) : ∀ p ∈ usedFiles file layer, t.layer p = .ok layer := by
  intro p mem
  rw [usedFiles] at mem
  split at mem
  · cases mem
  · rename_i present
    obtain rfl : file = some p := Option.mem_toList.mp mem
    rw [FileTree.layerOf, FileTree.layerAt] at read
    split at read
    · cases read
    · cases read
      exact absurd rfl present
    · exact read

/-- The files that were used are legible. -/
theorem layer_of_fileDocument {t : FileTree} {operator workspace : Option Path}
    {layers : Json.Fields × List Path} (read : fileDocument t operator workspace = .ok layers) :
    ∀ p ∈ layers.2, ∃ layer, t.layer p = .ok layer := by
  rw [fileDocument] at read
  cases below : t.layerOf operator with
  | error f => rw [below] at read; cases read
  | ok g =>
    cases above : t.layerOf (workspace.map workspaceFile) with
    | error f => rw [below, above] at read; cases read
    | ok l =>
      rw [below, above] at read
      cases read
      intro p mem
      rcases List.mem_append.mp mem with mem | mem
      · exact ⟨g, layer_of_usedFiles below p mem⟩
      · exact ⟨l, layer_of_usedFiles above p mem⟩

theorem warnOfSecret_finds {p : Path} {layer : Json.Fields} (read : w.files.layer p = .ok layer) :
    (warnOfSecret p).Finds w (.ok ()) := by
  have found := readLayer_finds p w
  rw [read] at found
  refine found.ok_bind fun lines => ?_
  split
  · split
    · exact .pure ()
    · exact .log _ _ _
  · exact .pure ()

theorem reportFiles_finds (files : List Path) (w : World) :
    (reportFiles files).Finds w (.ok ()) := by
  rw [reportFiles.eq_def]
  split
  · exact .log _ _ _
  · exact .forM fun p _ lines => .log _ _ _

/-! ### Variables -/

/-- The text that the first variable of several writes. -/
def textOf? (w : World) (names : List String) : Option Json :=
  (firstValueOf? w names).map fun s => .str (trimmed s)

/-- The number that a variable writes, if it writes one. -/
def numberOf? (w : World) (name : String) : Option Json :=
  ((present (w.valueOf? name)).bind readFloat?).map .float

/-- The first block that a variable writes, if it writes one. -/
def startOf? (w : World) : Option Json :=
  ((present (w.valueOf? startVariable)).bind fun raw => (readInt raw).toOption).map .int

/-- What variables write into sections. -/
def writesOf {β : Type} (value? : β → Option Json) (l : List (SettingKey × β)) :
    List (SettingKey × Json) :=
  l.filterMap fun e => (value? e.2).map fun v => (e.1, v)

/-- What all variables write into sections. -/
def writes (w : World) : List (SettingKey × Json) :=
  writesOf (textOf? w) textVariables ++ writesOf (numberOf? w) numberVariables

/-- A document with some values written into their sections. -/
def assignAll (fields : Json.Fields) (writes : List (SettingKey × Json)) :
    Except Fault Json.Fields :=
  writes.foldlM (fun fs e => assign fs e.1 e.2) fields

/-- A document with the first block that a variable sets. -/
def withStart (w : World) (fields : Json.Fields) : Json.Fields :=
  match startOf? w with
  | some n => Json.put "default_start_block" n fields
  | none => fields

/-- A document with all variables of the environment written over it. -/
def overlaid (w : World) (fields : Json.Fields) : Except Fault Json.Fields :=
  (assignAll fields (writes w)).map fun fs => withStart w (applyHalt w fs)

theorem assignAll_writesOf {β : Type} (value? : β → Option Json) (key : SettingKey) (b : β)
    (l : List (SettingKey × β)) (fields : Json.Fields) :
    assignAll fields (writesOf value? ((key, b) :: l)) =
      match value? b with
      | none => assignAll fields (writesOf value? l)
      | some v => assign fields key v >>= fun fields => assignAll fields (writesOf value? l) := by
  rw [writesOf, List.filterMap_cons]
  cases value? b <;> rfl

theorem applyTexts_eq (w : World) (fields : Json.Fields) (l : List (SettingKey × List String)) :
    applyTexts w fields l = assignAll fields (writesOf (textOf? w) l) := by
  induction l generalizing fields with
  | nil => rfl
  | cons e l ih =>
    obtain ⟨key, names⟩ := e
    rw [applyTexts, assignAll_writesOf, textOf?]
    cases firstValueOf? w names with
    | none => exact ih fields
    | some value =>
      dsimp only [Option.map_some]
      cases assign fields key (.str (trimmed value)) with
      | error f => rfl
      | ok fields => exact ih fields

theorem applyNumber_finds (fields : Json.Fields) (key : SettingKey) (name : String) (w : World) :
    (applyNumber fields key name).Finds w
      (match numberOf? w name with
        | none => .ok fields
        | some v => assign fields key v) := by
  rw [applyNumber, numberOf?]
  refine .get_bind ?_
  cases present (w.valueOf? name) with
  | none => exact .pure fields
  | some raw =>
    rw [Option.bind_some]
    cases parsed : readFloat? raw with
    | none =>
      simp only [parsed]
      exact .ok_bind (.log _ _ _) fun _ => .pure fields
    | some x =>
      simp only [parsed]
      exact .ofExcept _

theorem applyNumbers_finds (l : List (SettingKey × String)) (fields : Json.Fields) (w : World) :
    (applyNumbers fields l).Finds w (assignAll fields (writesOf (numberOf? w) l)) := by
  induction l generalizing fields w with
  | nil => exact .pure fields
  | cons e l ih =>
    obtain ⟨key, name⟩ := e
    have first := applyNumber_finds fields key name w
    rw [applyNumbers, assignAll_writesOf]
    cases value : numberOf? w name with
    | none =>
      rw [value] at first
      exact first.ok_bind fun lines => ih fields (w.withLines lines)
    | some v =>
      rw [value] at first
      exact first.bind fun fields lines _ => ih fields (w.withLines lines)

theorem applyStart_finds (fields : Json.Fields) (w : World) :
    (applyStart fields).Finds w (.ok (withStart w fields)) := by
  rw [applyStart, withStart, startOf?]
  refine .get_bind ?_
  cases present (w.valueOf? startVariable) with
  | none => exact .pure fields
  | some raw =>
    rw [Option.bind_some]
    cases parsed : readInt raw with
    | error e =>
      simp only [parsed]
      exact .ok_bind (.log _ _ _) fun _ => .pure fields
    | ok n =>
      simp only [parsed]
      exact .pure _

theorem applyVariables_finds (fields : Json.Fields) (w : World) :
    (applyVariables fields).Finds w (overlaid w fields) := by
  have numbers := fun fs (v : World) => applyNumbers_finds numberVariables fs v
  rw [applyVariables, overlaid, writes, assignAll, List.foldlM_append]
  refine .get_bind ?_
  rw [applyTexts_eq, assignAll]
  cases (writesOf (textOf? w) textVariables).foldlM (fun fs e => assign fs e.1 e.2) fields with
  | error f => exact (Finds.fail f).error_bind
  | ok fs =>
    refine (Finds.pure fs).ok_bind fun lines => ?_
    refine (numbers fs _).bind_lines fun gs more _ => .get_bind ?_
    exact applyStart_finds (applyHalt w gs) _

/-! ### All layers -/

/-- The steps in front of the reading of settings: the document of all layers. -/
def gather (operator workspace : Option Path) : Activity Json.Fields := do
  let file ← ofExcept (operatorFile (← get) operator)
  let (fields, files) ← fileLayers file workspace
  reportFiles files
  let fields ← applyVariables fields
  files.forM warnOfSecret
  return fields

/-- The document of all layers. -/
def document (w : World) (operator workspace : Option Path) : Except Fault Json.Fields := do
  let file ← operatorFile w operator
  let (fields, _) ← fileDocument w.files file workspace
  overlaid w fields

/-- Settings are loaded by reading the document that was gathered. -/
theorem load_eq (operator workspace : Option Path) :
    load operator workspace = (do
      let fields ← gather operator workspace
      let here := FileTree.pathOf (← get).files.here
      ofExcept (ofFields fields (workspace.getD here))) := by
  simp only [load, gather, bind_assoc, pure_bind]

theorem gather_finds (operator workspace : Option Path) (w : World) :
    (gather operator workspace).Finds w (document w operator workspace) := by
  rw [gather, document]
  refine .get_bind ((Finds.ofExcept (operatorFile w operator)).bind fun file lines _ => ?_)
  refine (fileLayers_finds file workspace _).bind fun layers more read => ?_
  refine (reportFiles_finds layers.2 _).ok_bind fun report => ?_
  have legible := layer_of_fileDocument read
  refine (applyVariables_finds layers.1 _).bind_same fun fields rest _ => ?_
  refine .ok_bind (.forM fun p mem last => ?_) fun _ => .pure fields
  obtain ⟨layer, read⟩ := legible p mem
  exact warnOfSecret_finds read

theorem load_finds (operator workspace : Option Path) (w : World) :
    (load operator workspace).Finds w (do
      let fields ← document w operator workspace
      ofFields fields (workspace.getD (FileTree.pathOf w.files.here))) := by
  rw [load_eq]
  exact (gather_finds operator workspace w).bind fun fields lines _ => .get_bind (.ofExcept _)

end Settings

end ProofRelay
