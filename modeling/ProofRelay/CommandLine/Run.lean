import ProofRelay.CommandLine.Frontend
import ProofRelay.Settings.Load

/-!
# The command line

The command is looked up first, then the settings are loaded, then the arguments of the command are
read, and then it runs.  A mistake ends the run where it is found, so that a mistake in the
arguments of a command is reported behind the log lines of the settings.

## Main definitions

* `Frontend.perform` : a command with its settings.
* `Frontend.run` : a command that was looked up.
* `Frontend.commandLine` : a run of the command line.
* `commandLine` : a run with the usual frontend.
-/

namespace ProofRelay.CommandLine

open Activity

namespace Frontend

variable (c : Frontend)

/-- The end of a reading: a page, the version, or the report of a mistake. -/
def endReading (program : String) (page : Page) : Halt → Activity ExitStatus
  | .nothing => do
    endWith .notSet (c.page (← get).environment program page)
  | .help => do
    print (c.page (← get).environment program page)
    return .ok
  | .version => do
    print versionText
    return .ok
  | .mistake f => do
    if f.showsUsage then complain (c.reminder (← get).environment program page)
    endWithProblem .notSet f.report
  | .broken f => fail f

/-- A command whose arguments are read before it runs. -/
def readThen {σ : Type} (program : String) (page : Page) (told : Except Halt σ)
    (perform : σ → Activity ExitStatus) : Activity ExitStatus :=
  match told with
  | .error h => c.endReading program page h
  | .ok t => perform t

/-- A command with its settings. -/
def perform (i : Invocation) (program : String) (s : Settings) (bound : Nat) :
    Activity ExitStatus :=
  match i.page with
  | .run =>
    c.readThen program .run (c.runTask i.arguments) fun t => t.perform c.draw s bound
  | .plan =>
    c.readThen program .plan (c.planTask i.arguments)
      fun t => c.readThen program .plan t.witnessName fun name => t.perform s name
  | .result =>
    c.readThen program .result (c.resultTask i.arguments) fun t => t.perform s
  | .doctor =>
    c.readThen program .doctor (c.doctorTask i.arguments) fun t => t.perform s
  | .commands => return .ok

/-- A command that was looked up: its settings are loaded first. -/
def run (i : Invocation) (program : String) (bound : Nat) : Activity ExitStatus := do
  let files := (← get).files
  match ← attempt (Settings.load i.group.settingsFile (i.group.workspace.map files.resolve)) with
  | .error (.setting message) => endWithProblem .notSet message
  | .error f => fail f
  | .ok s => c.perform i program s bound

/-- A run of the command line under the name of the program, with a bound on rounds and polls. -/
def commandLine (program : String) (bound : Nat) (arguments : List String) :
    Activity ExitStatus := do
  match c.invocation (← get).files arguments with
  | .error h => c.endReading program .commands h
  | .ok i => c.run i program bound

end Frontend

/-- A run of the command line with the usual frontend. -/
def commandLine (program : String) (bound : Nat) (arguments : List String) :
    Activity ExitStatus :=
  Frontend.usual.commandLine program bound arguments

end ProofRelay.CommandLine
