import ProofRelay.Files.Tree
import ProofRelay.Shell.Syntax

/-!
# The state of a script

What a script works with while it runs: its variables and arguments, the files, and where its
channels lead to.  What is printed is gathered in buffers.

## Main definitions

* `State` : the state of a script.
* `Leave` : why the commands of a script are left.
* `Action` : a step of a script.
* `say`, `sayError` : output on the channels.
-/

namespace ProofRelay.Shell

open ProofRelay.Text

/-- A variable. -/
structure Variable where
  /-- The name. -/
  name : String
  /-- The value. -/
  value : String
  /-- Whether programs see it in their environment. -/
  exported : Bool
  /-- Whether its value stays as it is. -/
  isFixed : Bool
  deriving DecidableEq, Repr

/-- Where a channel leads to. -/
inductive Sink where
  /-- A buffer. -/
  | buffer (n : Nat)
  /-- A file. -/
  | file (l : Location)
  /-- Nowhere. -/
  | nowhere
  deriving DecidableEq, Repr

/-- The state of a script. -/
structure State where
  /-- The name under which the script runs. -/
  name : String
  /-- The arguments. -/
  arguments : List String
  /-- The variables. -/
  store : List Variable
  /-- The variables that the running function made its own, as they were before. -/
  kept : List (String × Option Variable)
  /-- The commands that the script defined. -/
  functions : List (String × Command)
  /-- The scripts that are run when a signal arrives, or at the end under the number zero. -/
  traps : List (Nat × String)
  /-- The number of repetitions around the command. -/
  loops : Nat
  /-- The status of the last command. -/
  status : Nat
  /-- The line of the command. -/
  line : Nat
  /-- The number of the process. -/
  process : Nat
  /-- Whether a command that the script defined is running. -/
  isInFunction : Bool
  /-- The letters of the options that are set. -/
  options : List Char
  /-- The place in an argument at which the next option is looked for. -/
  optionPlace : Nat
  /-- Whether the status of the command is looked at. -/
  isTested : Bool
  /-- The files. -/
  files : FileTree
  /-- Where the channels lead to. -/
  sinks : List (Nat × Sink)
  /-- What is left to read. -/
  input : List UInt8
  /-- What was printed into the buffers, the latest byte first. -/
  buffers : List (List UInt8)

/-- Why the commands of a script are left. -/
inductive Leave where
  /-- The script ends. -/
  | exit
  /-- A signal ends the script. -/
  | killed (signal : Nat)
  /-- Repetitions are left, or the outermost of them goes on. -/
  | loop (depth : Nat) (goesOn : Bool)
  /-- A command that the script defined ends. -/
  | returned
  /-- The bound on the depth of commands was reached. -/
  | endless

/-- A step of a script. -/
abbrev Action (α : Type) := ExceptT Leave (StateM State) α

/-- The end of a script with a status. -/
def leaveWith {α : Type} (status : Nat) : Action α := do
  modify fun s => { s with status := status }
  throw .exit

/-- The letters of the options with their names; they are shown from the last one to the first. -/
def optionNames : List (Char × String) :=
  [('e', "errexit"), ('f', "noglob"), ('I', "ignoreeof"), ('i', "interactive"), ('m', "monitor"),
    ('n', "noexec"), ('s', "stdin"), ('x', "xtrace"), ('v', "verbose"), ('V', "vi"),
    ('E', "emacs"), ('C', "noclobber"), ('a', "allexport"), ('b', "notify"), ('u', "nounset")]

/-- Whether an option is set. -/
def State.has (s : State) (letter : Char) : Bool :=
  s.options.contains letter

/-- A new status. -/
def setStatus (status : Nat) : Action Unit :=
  modify fun s => { s with status := status }

/-! ### Variables -/

/-- The value of a variable. -/
def State.valueOf? (s : State) (name : String) : Option String :=
  (s.store.find? fun v => v.name = name).map (·.value)

/-- The variables that programs see in their environment. -/
def State.exported (s : State) : List (String × String) :=
  (s.store.filter (·.exported)).map fun v => (v.name, v.value)

/-- Variables with a value for one of them. -/
def assigned (name value : String) (exported : Bool) : List Variable → List Variable
  | [] => [⟨name, value, exported, false⟩]
  | v :: vs =>
    if v.name = name then ⟨name, value, v.exported || exported, v.isFixed⟩ :: vs
    else v :: assigned name value exported vs

/-- Whether the value of a variable stays as it is. -/
def State.isFixed (s : State) (name : String) : Bool :=
  s.store.any fun v => v.name = name && v.isFixed

/-- A variable that is put back at the end of the running function. -/
def keep (name : String) : Action Unit :=
  modify fun s => { s with kept := (name, s.store.find? fun v => v.name = name) :: s.kept }

/-- Variables as they were before the running function made some its own. -/
def restored (kept : List (String × Option Variable)) (store : List Variable) : List Variable :=
  kept.foldl (fun store k => (store.filter fun v => v.name ≠ k.1) ++ k.2.toList) store

/-- A variable that programs see, if it has a value. -/
def expose (name : String) : Action Unit :=
  modify fun s =>
    { s with
      store := s.store.map fun v => if v.name = name then { v with exported := true } else v }

/-- The environment of a program. -/
def State.environment (s : State) : List (String × String) :=
  (s.store.filter (·.exported)).map fun v => (v.name, v.value)

/-! ### Output -/

/-- More bytes in a buffer. -/
def appended (bytes : List UInt8) : Nat → List (List UInt8) → List (List UInt8)
  | _, [] => []
  | 0, b :: bs => (bytes.reverseAux b) :: bs
  | n + 1, b :: bs => b :: appended bytes n bs

/-- The sink of a channel. -/
def State.sinkOf (s : State) (channel : Nat) : Sink :=
  ((s.sinks.find? fun p => p.1 = channel).map (·.2)).getD .nowhere

/-- Bytes on a channel. -/
def sayBytes (channel : Nat) (bytes : List UInt8) : Action Unit :=
  modify fun s =>
    match s.sinkOf channel with
    | .nowhere => s
    | .buffer n => { s with buffers := appended bytes n s.buffers }
    | .file l =>
      match s.files.find? l with
      | some (.file old mode) => { s with files := s.files.put l (.file (old ++ bytes) mode) }
      | _ => s

/-- A text on the first channel. -/
def say (text : String) : Action Unit :=
  sayBytes 1 (Utf8.ofString text)

/-- A text on the second channel. -/
def sayError (text : String) : Action Unit :=
  sayBytes 2 (Utf8.ofString text)

/-- The report of a problem of the script, with its name and the line. -/
def report (text : String) : Action Unit := do
  let s ← get
  sayError (s.name ++ ": " ++ toString s.line ++ ": " ++ text ++ "\n")

/-- The end of a script with the report of a problem. -/
def failWith {α : Type} (status : Nat) (text : String) : Action α := do
  report text
  leaveWith status

/-- A value for a variable, which a command may give it. -/
def assignBy (command : String) (exported : Bool) (name value : String) : Action Unit := do
  let s ← get
  if s.isFixed name then failWith 2 (command ++ name ++ ": is read only")
  else set { s with store := assigned name value (exported || s.has 'a') s.store }

/-- A value for a variable. -/
def assign (name value : String) : Action Unit :=
  assignBy "" false name value

/-- The text that bytes write; bytes that write no text are taken for characters. -/
def textOf (bytes : List UInt8) : String :=
  match Utf8.toString? bytes with
  | .ok s => s
  | .error _ => String.ofList (bytes.map fun b => Char.ofNat b.toNat)

/-! ### States of their own -/

/-- A step after which everything but files, buffers and status is as before.  An end of the
script inside ends only the step. -/
def isolated (a : Action Unit) : Action Unit := do
  let before ← get
  let back := modify fun s =>
    { before with files := { s.files with here := before.files.here }, buffers := s.buffers
                  status := s.status, input := s.input }
  tryCatch (do a; back) fun
    | .killed n => throw (.killed n)
    | .endless => throw .endless
    | _ => back

/-- What a step prints on the first channel. -/
def printed (a : Action Unit) : Action (List UInt8) := do
  let n := (← get).buffers.length
  isolated do
    modify fun s => { s with buffers := s.buffers ++ [[]], sinks := (1, .buffer n) :: s.sinks }
    a
  let s ← get
  set { s with buffers := s.buffers.take n }
  return (s.buffers[n]?.getD []).reverse

end ProofRelay.Shell
