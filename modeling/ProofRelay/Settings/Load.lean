import ProofRelay.Json.Reader
import ProofRelay.Settings.Defaults
import ProofRelay.Settings.Merge
import ProofRelay.Settings.Reading
import ProofRelay.World.Activity

/-!
# Loading settings

The settings of a run are layers laid over each other: the defaults, a file of the operator, a
file of the workspace, and the variables of the environment.

## Main definitions

* `Settings.readLayer` : the layer of a file.
* `Settings.applyVariables` : the layer of the environment.
* `Settings.load` : all layers together.
-/

namespace ProofRelay.Settings

open ProofRelay.Text ProofRelay.Decimal Activity

/-- The part of the program that logs here. -/
def logSource : String := "config"

/-! ### Files -/

/-- A line about a file that cannot be read. -/
def unreadable (p : Path) (reason : String) : Activity Json.Fields := do
  logWarning logSource ("[config] Could not read " ++ p.toString ++ ": " ++ reason)
  return []

/-- The layer of a file.  A file that is missing or holds no document gives an empty layer, and
so does a document that is no object. -/
def readLayer (p : Path) : Activity Json.Fields := do
  match (← get).files.readText p with
  | .error (.file f) => unreadable p f.report
  | .error f => fail f
  | .ok text =>
    match Json.read text with
    | .error e =>
      let message := e.message text.toList
      if e.isOfForm then unreadable p message else fail (.value message)
    | .ok (.obj fs) => return fs
    | .ok _ => return []

/-- Layers with a file on top, and the files that were used. -/
def addFile (p : Path) (layers : Json.Fields × List Path) :
    Activity (Json.Fields × List Path) := do
  if (← entryAt p).isSome then
    let layer ← readLayer p
    if layer.isEmpty then return layers
    else return (Json.merge layers.1 layer, layers.2 ++ [p])
  else
    return layers

/-- The operator's home is not known. -/
def unknownHome : Fault :=
  .defect .environment "Could not determine home directory."

/-- The operator's home: the one of the environment, or else the one of the account.  One that is
itself written relative to a home leads nowhere. -/
def home (w : World) : Except Fault Path :=
  match (w.valueOf? "HOME").or w.host.home with
  | none => .error unknownHome
  | some written =>
    let written := dropEndWhile (· == '/') written
    if written.toList.head? = some '~' then .error unknownHome
    else .ok (.ofString (if written.isEmpty then "/" else written))

/-- The directory of the operator's own files. -/
def homeDirectory (w : World) : Except Fault Path :=
  match present (w.valueOf? "BLOCKPROVER_HOME") with
  | some s => .ok (.ofString s)
  | none => (home w).map (·.join ".blockprover")

/-- The file of the operator: the one that is asked for, or the one in the operator's directory.
The latter is left aside while tests run.  The directory has to be known in any case. -/
def operatorFile (w : World) (asked : Option Path) : Except Fault (Option Path) := do
  let directory ← homeDirectory w
  match asked with
  | some p => return some p
  | none =>
    if (present (w.valueOf? "PYTEST_CURRENT_TEST")).isSome then return none
    else return some (directory.join "config.json")

/-- The file of a workspace. -/
def workspaceFile (workspace : Path) : Path :=
  workspace.join ".blockprover/config.json"

/-- The layers of all files, and the files that were used. -/
def fileLayers (operator workspace : Option Path) : Activity (Json.Fields × List Path) := do
  let layers ←
    match operator with
    | some p => addFile p (defaultDocument, [])
    | none => pure (defaultDocument, [])
  match workspace with
  | some p => addFile (workspaceFile p) layers
  | none => return layers

/-! ### Variables -/

/-- The first variable of several that is set. -/
def firstValueOf? (w : World) (names : List String) : Option String :=
  names.findSome? fun n => present (w.valueOf? n)

/-- A document with a setting written into its section, which may be missing. -/
def assign (fields : Json.Fields) (key : SettingKey) (v : Json) : Except Fault Json.Fields :=
  match (Json.get? key.area fields).getD (.obj []) with
  | .obj fs => .ok (Json.put key.area (.obj (Json.put key.name v fs)) fields)
  | .arr _ => Json.mismatch "list indices must be integers or slices, not str"
  | other =>
    Json.mismatch ("'" ++ other.kindName ++ "' object does not support item assignment")

/-- A document with the variables that are texts. -/
def applyTexts (w : World) (fields : Json.Fields) :
    List (SettingKey × List String) → Except Fault Json.Fields
  | [] => .ok fields
  | (key, names) :: rest =>
    match firstValueOf? w names with
    | none => applyTexts w fields rest
    | some value =>
      match assign fields key (.str (trimmed value)) with
      | .error f => .error f
      | .ok fields => applyTexts w fields rest

/-- A line about a variable that writes no number. -/
def invalidVariable (name raw : String) : Activity Unit :=
  logWarning logSource ("[config] invalid " ++ name ++ "=" ++ quoted raw)

/-- A document with a variable that is a number. -/
def applyNumber (fields : Json.Fields) (key : SettingKey) (name : String) :
    Activity Json.Fields := do
  match present ((← get).valueOf? name) with
  | none => return fields
  | some raw =>
    match readFloat? raw with
    | none => do
      invalidVariable name raw
      return fields
    | some x => ofExcept (assign fields key (.float x))

/-- A document with the variables that are numbers. -/
def applyNumbers (fields : Json.Fields) :
    List (SettingKey × String) → Activity Json.Fields
  | [] => return fields
  | (key, name) :: rest => do applyNumbers (← applyNumber fields key name) rest

/-- Whether a text says yes. -/
def saysYes (raw : String) : Bool :=
  ["1", "true", "yes", "on"].contains (String.ofList ((trim raw.toList).map Char.toLower))

/-- A document with the variable of what a malformed verification does. -/
def applyHalt (w : World) (fields : Json.Fields) : Json.Fields :=
  match w.valueOf? haltVariable with
  | some raw => Json.put "halt_on_malformed" (.bool (saysYes raw)) fields
  | none => fields

/-- A document with the variable of the first block. -/
def applyStart (fields : Json.Fields) : Activity Json.Fields := do
  match present ((← get).valueOf? startVariable) with
  | none => return fields
  | some raw =>
    match readInt raw with
    | .ok n => return Json.put "default_start_block" (.int n) fields
    | .error _ => do
      invalidVariable startVariable raw
      return fields

/-- A document with all variables of the environment. -/
def applyVariables (fields : Json.Fields) : Activity Json.Fields := do
  let fields ← ofExcept (applyTexts (← get) fields textVariables)
  let fields ← applyNumbers fields numberVariables
  applyStart (applyHalt (← get) fields)

/-! ### All layers -/

/-- A warning about a file with a secret in it. -/
def warnOfSecret (p : Path) : Activity Unit := do
  let layer ← readLayer p
  match ((Json.get? "storage" layer).getD .null).field? "secret_key" with
  | some v =>
    unless v.isFalsy do
      logWarning logSource ("[config] storage secret key is stored in plaintext in " ++
        p.toString ++ ". Prefer BLOCKPROVER_S3_SECRET_KEY.")
  | none => return ()

/-- The lines about the files that were used. -/
def reportFiles : List Path → Activity Unit
  | [] => logInfo logSource "[config] Using defaults and environment (no config file found)"
  | files => files.forM fun p => logInfo logSource ("[config] Loaded from " ++ p.toString)

/-- The settings of all layers. -/
def load (operator workspace : Option Path) : Activity Settings := do
  let file ← ofExcept (operatorFile (← get) operator)
  let (fields, files) ← fileLayers file workspace
  reportFiles files
  let fields ← applyVariables fields
  files.forM warnOfSecret
  let here := FileTree.pathOf (← get).files.here
  ofExcept (ofFields fields (workspace.getD here))

end ProofRelay.Settings
