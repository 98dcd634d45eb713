import ProofRelay.Json.Number
import ProofRelay.Rehearsal.Script
import ProofRelay.Shell.Launch
import ProofRelay.Text.Hex

/-!
# Scenes

A scene is a document that describes the world of a rehearsal: the files below a root directory,
the variables of the environment, the scripts of the tools or the wish for real programs, and the
script of the object storage, the heads that the chain reports, and the time of a request to stop.

## Main definitions

* `Scene.entries` : the files of a scene.
* `Scene.toolScript`, `Scene.storageQueue` : its scripts.
* `Scene.world` : the world of a scene.
-/

namespace ProofRelay.Rehearsal.Scene

open ProofRelay

/-! ### Fields -/

/-- The items of a field that is a list. -/
def listField (v : Json) (key : String) : List Json :=
  match v.field? key with
  | some (.arr xs) => xs
  | _ => []

/-- The fields of a field that is an object. -/
def objectField (v : Json) (key : String) : Json.Fields :=
  match v.field? key with
  | some (.obj fs) => fs
  | _ => []

/-- The text of a field, if it is one. -/
def text? (v : Json) (key : String) : Option String :=
  (v.field? key).bind Json.text?

/-- The number of a field, if it is one. -/
def number? (v : Json) (key : String) : Option Float :=
  match v.field? key with
  | none | some .null => none
  | some x => x.toFloat.toOption

/-- Whether a field says yes. -/
def flag (v : Json) (key : String) : Bool :=
  match v.field? key with
  | some x => !x.isFalsy
  | none => false

/-! ### Files -/

/-- The bytes that pairs of hexadecimal digits write. -/
def hexBytes : List Char → List UInt8
  | a :: b :: s =>
    (16 * (Text.hexValue? a).getD 0 + (Text.hexValue? b).getD 0).toUInt8 :: hexBytes s
  | _ => []

/-- The permission bits that octal digits write. -/
def octalMode (s : String) : Nat :=
  s.toList.foldl (fun n c => 8 * n + (c.toNat - 48)) 0

/-- An entry of a scene. -/
def entry (v : Json) : Entry :=
  let mode := (text? v "mode").map octalMode
  if flag v "dir" then .directory (mode.getD FileTree.directoryMode)
  else
    let bytes :=
      match text? v "hex" with
      | some s => hexBytes s.toList
      | none => Text.Utf8.ofString ((text? v "text").getD "")
    .file bytes (mode.getD FileTree.fileMode)

/-- A tree with a directory at a location and at all locations above it. -/
def putDirectories (t : FileTree) (l : Location) : FileTree :=
  (List.range l.length).foldl
    (fun t n =>
      let m := l.take (n + 1)
      match t.find? m with
      | some _ => t
      | none => t.put m (.directory FileTree.directoryMode))
    t

/-- The location of a written path below a root. -/
def location (root : Location) (path : String) : Location :=
  let p := Path.ofString path
  if p.isAbsolute then p.parts else root ++ p.parts

/-- A tree with an entry of a scene. -/
def putEntry (root : Location) (t : FileTree) (v : Json) : FileTree :=
  let l := location root ((text? v "path").getD "")
  let t := putDirectories t l.dropLast
  match entry v, t.find? l with
  | .directory _, some (.directory _) => t
  | .file bytes _, some (.file _ old) =>
    let mode := ((text? v "mode").map octalMode).getD old
    t.put l (.file bytes mode)
  | e, _ => t.put l e

/-- The tree of a scene: a root that is the working directory, the programs of the system, and the
files. -/
def tree (root : Location) (files : List Json) : FileTree :=
  let empty : FileTree := putDirectories ⟨[], root⟩ root
  let system := Shell.programLocations.foldl
    (fun t p => (putDirectories t p.1.dropLast).put p.1 p.2) empty
  files.foldl (putEntry root) system

/-! ### Scripts -/

/-- The end of a scripted call. -/
def ending (v : Json) : ToolEnding :=
  match text? v "launch" with
  | some reason => .notStarted reason
  | none =>
    let status :=
      match v.field? "exit" with
      | some (.int n) => n
      | _ => 0
    .exited status ((text? v "out").getD "") ((text? v "err").getD "")

/-- A scripted reply. -/
def scriptedReply (v : Json) : ScriptedReply where
  delay := (number? v "advance").getD 0
  writes := text? v "write"
  raisesStop := flag v "cancel"
  sendsSignal := flag v "sigterm"
  ending := ending v

/-- The script of the tools. -/
def toolScript (queues : Json.Fields) : ToolScript :=
  queues.map fun q =>
    match q.2 with
    | .arr replies => ⟨q.1, 0, replies.map scriptedReply⟩
    | _ => ⟨q.1, 0, []⟩

/-- A scripted answer of the object storage. -/
def uploadReply (v : Json) : UploadReply :=
  match v.fields? with
  | some ((kind, detail) :: _) =>
    let text := detail.text?.getD ""
    if kind = "client_error" then
      match detail with
      | .arr [.str code, .str message, .str operation] =>
        .refused ("An error occurred (" ++ code ++ ") when calling the " ++ operation ++
          " operation: " ++ message)
      | _ => .refused ""
    else if kind = "endpoint_error" then
      .refused ("Could not connect to the endpoint URL: \"" ++ text ++ "\"")
    else if kind = "no_credentials" then .refused "Unable to locate credentials"
    else if kind = "upload_failed" then .refused text
    else if kind = "os_error" then .broken (.defect .system text)
    else if kind = "value_error" then .broken (.value text)
    else .stored
  | _ => .stored

/-- The queue of the object storage. -/
def storageQueue (scene : Json) : List UploadReply :=
  (listField scene "s3").map uploadReply

/-! ### Worlds -/

/-- The texts of a field with their names. -/
def namedTexts (v : Json) (key : String) : List (String × String) :=
  (objectField v key).filterMap fun p => p.2.text?.map fun s => (p.1, s)

/-- The variables of the environment: the search path, the operator's directory and the size of
the terminal, and the ones of the scene on top. -/
def environment (root : Location) (scene : Json) : List (String × String) :=
  let at_ := (FileTree.pathOf root).toString
  Shell.overlaid
    [("PATH", at_ ++ "/bin:/usr/bin:/bin"), ("HOME", at_ ++ "/home"), ("COLUMNS", "80"),
      ("LINES", "25")]
    (namedTexts scene "environ")

/-- The tools of a scene: real programs, or scripted ones. -/
def tools (environment : List (String × String)) (scene : Json) : Tools :=
  if text? scene "runner" = some "real" then Shell.Launcher.tools ⟨environment, [], .null⟩
  else (toolScript (objectField scene "tools")).tools

/-- The world of a scene at its beginning. -/
def world (root : Location) (scene : Json) : World where
  files := tree root (listField scene "files")
  environment := environment root scene
  host := ⟨none, "/bin:/usr/bin"⟩
  denied := ⟨(listField scene "deny").filterMap Json.text?, []⟩
  clock := 0
  stop := (number? scene "cancel_at").map fun t => ⟨false, some t⟩
  tools := tools (environment root scene) scene
  storage := storageOf (storageQueue scene) 0
  clientLines := fun _ _ => []
  chain := chainOf ((listField scene "heads").map .value) 0
  job := none
  journal := []

end ProofRelay.Rehearsal.Scene
