import ProofRelay.CommandLine.Commands
import ProofRelay.CommandLine.Drawing
import ProofRelay.CommandLine.Pages

/-!
# Between the operator and the commands

A command line names one command, with options of the group before it.  What reads the words of a
command line, lays out the help pages and draws tables on the screen is no part of the commands: it
is given to them, and a run of the command line is one with any of its kind.  The usual one reads
the words by the parameters of the commands.

## Main definitions

* `GroupTask` : what the options of the group tell.
* `Invocation` : a command that was looked up.
* `Invocation.read` : the command in a list of arguments.
* `Frontend` : what stands between the operator and the commands.
* `Frontend.usual` : the usual one.
-/

namespace ProofRelay.CommandLine

open ProofRelay.Text Activity

/-! ### The group of commands -/

/-- What the options of the group tell. -/
structure GroupTask where
  /-- The file with the operator's settings. -/
  settingsFile : Option Path
  /-- The directory to work in. -/
  workspace : Option Path
  /-- Whether lines for the search for mistakes are shown. -/
  verbose : Bool

namespace GroupTask

/-- What the group is told when nothing is given. -/
def initial : GroupTask := ⟨none, none, false⟩

/-- A parameter that is a path to something of one kind. -/
def pathParameter (t : FileTree) (names : List String) (kind : String) (directory : Bool)
    (change : Path → GroupTask → GroupTask) : Parameter GroupTask where
  form := some ⟨names, true⟩
  isFirst := false
  read := fun given g =>
    let refuse := fun r =>
      Except.error (Halt.mistake (.value (" / ".intercalate (names.map quoted)) r))
    match given.bind (·.value) with
    | none => .ok g
    | some text =>
      if text.toList.contains '\x00' then .error (.broken FileTree.nullFault)
      else
        match t.statusOfText text with
        | .error _ => refuse (.absent kind text)
        | .ok e =>
          if e.isDirectory = directory then .ok (change (.ofString text) g)
          else if directory then refuse (.isFile kind text)
          else refuse (.isDirectory kind text)

/-- The option that asks for the version. -/
def versionParameter : Parameter GroupTask where
  form := some ⟨["--version"], false⟩
  isFirst := true
  read := fun given g => if given.isSome then .error .version else .ok g

/-- The parameters of the group. -/
def parameters (t : FileTree) : List (Parameter GroupTask) :=
  [versionParameter,
    pathParameter t ["--config"] "File" false fun p g => { g with settingsFile := some p },
    pathParameter t ["--workspace", "-w"] "Directory" true fun p g =>
      { g with workspace := some p },
    .switch ["--verbose", "-v"] fun g => { g with verbose := true },
    .help]

/-- What the options of the group tell, and the words that are left. -/
def read (t : FileTree) (arguments : List String) : Except Halt (GroupTask × List String) :=
  readParameters (parameters t) false initial arguments

end GroupTask

/-! ### Looking up the command -/

/-- A command that was looked up. -/
structure Invocation where
  /-- What the options of the group tell. -/
  group : GroupTask
  /-- The command. -/
  page : Page
  /-- The arguments of the command. -/
  arguments : List String

namespace Invocation

/-- The command in a list of arguments.  A word that is no command is read once more as an option
of the group, since it may be one behind two dashes. -/
def read (t : FileTree) (arguments : List String) : Except Halt Invocation := do
  if arguments.isEmpty then .error .nothing
  match ← GroupTask.read t arguments with
  | (_, []) => .error (.mistake .noCommand)
  | (group, name :: rest) =>
    match Page.ofName? name with
    | some page => return ⟨group, page, rest⟩
    | none =>
      let _ ← GroupTask.read t (name :: rest)
      .error (.mistake (.unknownCommand name (similarTo name (Page.all.map (·.name)))))

/-- Whether a list of arguments asks for the lines for the search for mistakes. -/
def asksForDetails (t : FileTree) (arguments : List String) : Bool :=
  match read t arguments with
  | .ok i => i.group.verbose
  | .error _ => false

end Invocation

/-! ### The frontend -/

/-- What stands between the operator and the commands. -/
structure Frontend where
  /-- The command that the words of a command line name, in a tree of files. -/
  invocation : FileTree → List String → Except Halt Invocation
  /-- What the words behind its name tell the command that runs jobs. -/
  runTask : List String → Except Halt RunTask
  /-- What they tell the command that shows a plan. -/
  planTask : List String → Except Halt PlanTask
  /-- What they tell the command that polls a transaction once. -/
  resultTask : List String → Except Halt ResultTask
  /-- What they tell the command that checks the setup. -/
  doctorTask : List String → Except Halt DoctorTask
  /-- A page under the name of the program, in an environment. -/
  page : List (String × String) → String → Page → String
  /-- The reminder before the report of a mistake, likewise. -/
  reminder : List (String × String) → String → Page → String
  /-- The lines of a drawn table in an environment. -/
  draw : List (String × String) → Table → Except Fault (List String)

/-- The frontend that reads words by the parameters of the commands. -/
def Frontend.usual : Frontend where
  invocation := Invocation.read
  runTask := readAll RunTask.parameters .initial
  planTask := readAll PlanTask.parameters .initial
  resultTask := readAll ResultTask.parameters .initial
  doctorTask := readAll DoctorTask.parameters .initial
  page := fun environment program p => p.text program (Screen.pageColumns environment)
  reminder := fun environment program p => p.reminder program (Screen.pageColumns environment)
  draw := Screen.draw

end ProofRelay.CommandLine
