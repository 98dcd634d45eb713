import ProofRelay.Json.Access
import ProofRelay.Shell.Run
import ProofRelay.World.Basic

/-!
# Tools that are programs

The tools of a run as programs in the tree of files.  A program is found by its path or on the
search path, runs with the environment of its call, and ends with a status or by a signal.  All
parts of a call have to be texts, and so has what the program prints.

## Main definitions

* `Launcher` : where programs are started and with which environment.
* `Launcher.start` : the texts of a call.
* `Course`, `Performance` : what a program does that is asked for.
* `Launcher.programs` : the tools that are programs of some behaviour.
* `Launcher.run` : what a program in the tree of files does.
* `Launcher.tools` : the tools that are programs in the tree of files.
-/

namespace ProofRelay.Shell

open ProofRelay.Text

/-- Where programs are started and with which environment. -/
structure Launcher where
  /-- The environment of the run. -/
  inherited : List (String × String)
  /-- The variables that every call adds to it. -/
  added : Json.Fields
  /-- The directory; nothing if it is that of the run. -/
  directory : Json

/-- What a program is started with. -/
structure Start where
  /-- The program. -/
  command : String
  /-- The program and its arguments. -/
  line : List String
  /-- The environment. -/
  environment : List (String × String)
  /-- The directory, if it is another one than that of the run. -/
  directory : Option String
  deriving DecidableEq, Repr

/-- An environment with variables on top. -/
def overlaid {α : Type} (base top : List (String × α)) : List (String × α) :=
  top.foldl (fun vs p =>
    if vs.any fun v => v.1 = p.1 then vs.map fun v => if v.1 = p.1 then p else v
    else vs ++ [p]) base

/-- The greatest depth of commands in a script. -/
def commandDepth : Nat := 10000

/-- What a program printed and how it ended. -/
structure Finished where
  /-- The status, or minus the number of the signal that ended it. -/
  status : Int
  /-- The bytes on the first channel. -/
  out : List UInt8
  /-- The bytes on the second channel. -/
  err : List UInt8
  /-- The files after it. -/
  files : FileTree

/-- The state in which a program starts. -/
def initialState (files : FileTree) (environment : List (String × String)) : State where
  name := ""
  arguments := []
  store := environment.map fun p => ⟨p.1, p.2, true, false⟩
  kept := []
  functions := []
  traps := []
  loops := 0
  status := 0
  line := 1
  process := 0
  isInFunction := false
  options := []
  optionPlace := 0
  isTested := false
  files := files
  sinks := [(1, .buffer 0), (2, .buffer 1)]
  input := []
  buffers := [[], []]

/-- A program from its start to its end. -/
def finish (files : FileTree) (environment : List (String × String)) (p : LoadedProgram) :
    Finished :=
  let e := engine commandDepth
  let run := e.runLoaded (e.start "" Engine.programDepth) p
  let (ending, s) := run.run.run (initialState files environment)
  let status : Int := match ending with
    | .error (.killed n) => -(Int.ofNat n)
    | _ => Int.ofNat s.status
  ⟨status, (s.buffers[0]?.getD []).reverse, (s.buffers[1]?.getD []).reverse,
    { s.files with here := files.here }⟩

/-- The entries of a tree that are not in another one. -/
def newEntries (before after : FileTree) : List (Location × Entry) :=
  after.entries.filter fun e => before.find? e.1 ≠ some e.2

/-- The text that a program printed, with every end of a line written as a line feed. -/
def printedText (bytes : List UInt8) : Except Fault String :=
  match Utf8.decode bytes with
  | .ok s => .ok (String.ofList (FileTree.plainLines s))
  | .error e => .error (.defect .bytes e.message)

/-- The course of a program that is asked for. -/
inductive Course where
  /-- It cannot be started. -/
  | refused (reason : String)
  /-- It ends with a status, or minus the number of the signal that ends it, and has printed bytes
  on its two channels. -/
  | ended (status : Int) (out err : List UInt8)
  deriving DecidableEq, Repr

/-- How a call ends when its program takes a course: all that is printed has to be text. -/
def Course.ending : Course → ToolEnding
  | .refused reason => .notStarted reason
  | .ended status out err =>
    match printedText out, printedText err with
    | .ok out, .ok err => .exited status out err
    | .error f, _ => .garbled f
    | .ok _, .error f => .garbled f

/-- What a program does that is asked for. -/
structure Performance where
  /-- The time that it takes. -/
  delay : Float
  /-- The files that it writes. -/
  writes : List (Location × Entry)
  /-- Whether it raises the request to stop. -/
  raisesStop : Bool
  /-- Whether it sends the signal to end. -/
  sendsSignal : Bool
  /-- The course that it takes. -/
  course : Course

/-- What the call of a program does. -/
def Performance.reply (p : Performance) : ToolReply :=
  ⟨p.delay, p.writes, p.raisesStop, p.sendsSignal, p.course.ending⟩

namespace Launcher

/-- Whether a code point is a half of a surrogate pair that has no bytes.  The other halves stand
for bytes of the system that are part of no character. -/
def isLost (n : Nat) : Bool :=
  isHalf n && !(0xdc80 ≤ n && n < 0xdd00)

/-- Code points that all have bytes. -/
def withBytes (ps : List Nat) : Except Fault Unit :=
  if ps.any isLost then .error (.defect .encoding (Utf8.halvesMessage isLost ps)) else .ok ()

/-- The text of a value that is one with bytes. -/
def byteText (v : Json) : Except Fault String := do
  let s ← v.pathText
  withBytes (v.points?.getD [])
  return s

/-- A text that does not hold the character that ends one. -/
def unended (s : String) : Except Fault String :=
  if s.toList.contains '\x00' then .error FileTree.nullFault else .ok s

/-- A variable of a call. -/
def variableOf (p : String × Json) : Except Fault (String × String) := do
  withBytes (pointsOfText p.1)
  if p.1.toList.contains '=' then .error (.value "illegal environment variable name")
  return (p.1, ← byteText p.2)

/-- The variables of a call: those of the run, the ones that every call adds, and its own. -/
def callVariables (l : Launcher) (c : ToolCall) : Json.Fields :=
  let inherited : Json.Fields := l.inherited.map fun p => (p.1, .str p.2)
  overlaid (overlaid inherited l.added) (c.environment.getD [])

/-- The environment of a call. -/
def environment (l : Launcher) (c : ToolCall) : Except Fault (List (String × String)) :=
  (l.callVariables c).mapM variableOf

/-- The text of the system that a value is. -/
def systemText (v : Json) : Except Fault String := do
  unended (← byteText v)

/-- A variable as the system takes it. -/
def systemVariable (p : String × String) : Except Fault (String × String) := do
  return (← unended p.1, ← unended p.2)

/-- The directory of a call. -/
def directoryText (l : Launcher) : Except Fault (Option String) :=
  match l.directory with
  | .null => .ok none
  | v => do return some (← systemText v)

/-- The texts of a call.  The kind of the program is looked at first, then the environment, the
program, its arguments and the directory, so that of several faults the first one is reported. -/
def start (l : Launcher) (c : ToolCall) : Except Fault Start := do
  let _ ← c.command.pathText
  let environment ← l.environment c
  let command ← systemText c.command
  let arguments ← c.arguments.mapM systemText
  let environment ← environment.mapM systemVariable
  return ⟨command, command :: arguments, environment, ← l.directoryText⟩

/-- What a program does when a file is in its way. -/
def notStarted (problem : FileProblem) (path : String) : Performance :=
  ⟨0, [], false, false, .refused (FileFault.report ⟨problem, path, none⟩)⟩

/-- The tree seen from the directory in which a program starts. -/
def moved (files : FileTree) (directory : Option String) : Except FileProblem FileTree :=
  match directory with
  | none => .ok files
  | some d =>
    match files.statusOfText d, files.locate (.ofString d) with
    | .ok (.directory _), .ok here => .ok { files with here := here }
    | .ok (.file ..), _ => .error .notDirectory
    | .error e, _ => .error e
    | _, .error e => .error e

/-- What a program does that is asked for. -/
def run (files : FileTree) (s : Start) : Performance :=
  match moved files s.directory with
  | .error e => notStarted e (s.directory.getD "")
  | .ok t =>
    let search := ((s.environment.find? fun p => p.1 = "PATH").map (·.2)).getD "/bin:/usr/bin"
    let short := areShort s.line s.environment
    match loadFirst t short s.line (candidates search s.command) none with
    | .error e => notStarted e s.command
    | .ok p =>
      let done := finish t s.environment p
      ⟨0, newEntries files done.files, false, false, .ended done.status done.out done.err⟩

/-- The tools that are programs of some behaviour, which may depend on the calls before it and on
the files. -/
def programs (l : Launcher) (behaviour : List ToolCall → FileTree → Start → Performance) :
    Tools where
  reply := fun calls files c =>
    match l.start c with
    | .error f => ⟨0, [], false, false, .garbled f⟩
    | .ok s => (behaviour calls files s).reply
  logged := true

/-- The tools that are programs in the tree of files. -/
def tools (l : Launcher) : Tools :=
  l.programs fun _ files s => run files s

end Launcher

end ProofRelay.Shell
