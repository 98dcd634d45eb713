import ProofRelay.Json.Equality
import ProofRelay.Text.Blank
import ProofRelay.Text.Quoted

/-!
# Faults

What can go wrong between a block number and its verification.  A missing setting and a failed
stage are told apart from a defect, which is an operation that met a value it cannot work with.
A stage fault gathers the block and the stage as it passes them on its way out, so that its
report says which block broke, where, and what the tool said.

## Main definitions

* `FileFault` : a file operation that was refused.
* `StageFault` : a stage of a block's job that failed.
* `Defect` : an operation that met a value it cannot work with.
* `Fault` : all of them.
* `Fault.report` : the text for the operator.
-/

namespace ProofRelay

open ProofRelay.Text

/-! ### Files -/

/-- Why a file operation was refused. -/
inductive FileProblem where
  /-- There is no such entry. -/
  | absent
  /-- The permissions forbid it. -/
  | denied
  /-- The entry exists already. -/
  | exists
  /-- A part of the path is a file. -/
  | notDirectory
  /-- The entry is a directory. -/
  | isDirectory
  /-- The path or a name of it has too many bytes. -/
  | nameTooLong
  /-- The directory has entries. -/
  | notEmpty
  /-- A program of another format. -/
  | notRunnable
  /-- An argument or a variable of a program has too many bytes. -/
  | argumentTooLong
  deriving DecidableEq, Repr

/-- The system's number of a problem. -/
def FileProblem.number : FileProblem → Nat
  | .absent => 2
  | .argumentTooLong => 7
  | .notRunnable => 8
  | .denied => 13
  | .exists => 17
  | .notDirectory => 20
  | .isDirectory => 21
  | .nameTooLong => 36
  | .notEmpty => 39

/-- The system's words for a problem. -/
def FileProblem.text : FileProblem → String
  | .absent => "No such file or directory"
  | .argumentTooLong => "Argument list too long"
  | .notRunnable => "Exec format error"
  | .denied => "Permission denied"
  | .exists => "File exists"
  | .notDirectory => "Not a directory"
  | .isDirectory => "Is a directory"
  | .nameTooLong => "File name too long"
  | .notEmpty => "Directory not empty"

/-- A file operation that was refused. -/
structure FileFault where
  /-- The reason. -/
  problem : FileProblem
  /-- The path as it was given. -/
  path : String
  /-- The second path of an operation on two. -/
  target : Option String
  deriving DecidableEq, Repr

/-- The text for the operator: the number, the words, and the paths between quotation marks. -/
def FileFault.report (f : FileFault) : String :=
  let target := (f.target.map fun t => " -> " ++ quoted t).getD ""
  "[Errno " ++ toString f.problem.number ++ "] " ++ f.problem.text ++ ": " ++ quoted f.path ++
    target

/-! ### Stages -/

/-- What made a stage fail. -/
inductive Cause where
  /-- Something without a class of its own. -/
  | general
  /-- An external program could not be started, or did not end with success. -/
  | tool (command : List Json) (exitStatus : Option Int) (out err : String)
  /-- A program's output lacked the expected shape. -/
  | output
  /-- The checksum tool printed no checksum. -/
  | checksum
  /-- No transaction hash came back from a submission. -/
  | submission
  /-- The transaction tree has no leaf yet. -/
  | noLeaf
  /-- The object storage did not take a file. -/
  | upload
  /-- The chain's head could not be read. -/
  | chain
  /-- The verification is not a structured document. -/
  | malformed (payload : String) (transaction leaf : Option String)
  /-- There was no verification in time. -/
  | timeout
  /-- The caller asked to stop. -/
  | cancelled
  deriving DecidableEq, Repr

/-- A stage of a block's job that failed. -/
structure StageFault where
  /-- What made it fail. -/
  cause : Cause
  /-- The report, without the place and the tool's output. -/
  message : String
  /-- The block. -/
  block : Option Int
  /-- The stage. -/
  stage : Option String
  /-- What the tool said. -/
  output : Option String
  deriving DecidableEq, Repr

namespace StageFault

/-- A fault that does not know its place yet. -/
def of (cause : Cause) (message : String) : StageFault :=
  ⟨cause, message, none, none, none⟩

/-- A fault with what a tool said. -/
def withOutput (cause : Cause) (message output : String) : StageFault :=
  ⟨cause, message, none, none, some output⟩

/-- What a tool said on its two channels, each trimmed, without the empty ones. -/
def saidBy (out err : String) : Option String :=
  let parts := [trimmed out, trimmed err].filter (· ≠ "")
  let said := "\n".intercalate parts
  if said.isEmpty then none else some said

/-- An external program that failed. -/
def ofTool (command : List Json) (message : String) (exitStatus : Option Int)
    (out err : String) : StageFault :=
  ⟨.tool command exitStatus out err, message, none, none, saidBy out err⟩

/-- The word for a text that may be missing. -/
def textOrNone (s : Option String) : String :=
  s.getD "None"

/-- A verification that is not a structured document. -/
def ofMalformed (payload : String) (transaction leaf : Option String) (block : Option Int) :
    StageFault :=
  let message := "malformed verification payload for tx " ++ textOrNone transaction ++
    " (leaf " ++ textOrNone leaf ++ ")"
  ⟨.malformed payload transaction leaf, message, block, some "poll", some payload⟩

/-- The places that a report names. -/
def places (f : StageFault) : List String :=
  (f.block.map fun n => "block " ++ toString n).toList ++
    (f.stage.filter (· ≠ "")).toList.map ("stage " ++ ·)

/-- The report for the operator: the places, the message, and the tool's output if there is
any. -/
def report (f : StageFault) : String :=
  let head := if f.places.isEmpty then "" else "[" ++ ", ".intercalate f.places ++ "] "
  let tail :=
    match f.output with
    | some s => if s.isEmpty then "" else "\n--- tool output ---\n" ++ trimmedEnd s
    | none => ""
  head ++ f.message ++ tail

/-- A fault that passes a stage of a block's job: what it does not know yet is filled in. -/
def passing (block : Int) (stage : String) (f : StageFault) : StageFault :=
  { f with block := f.block <|> some block, stage := f.stage <|> some stage }

end StageFault

/-! ### All faults -/

/-- The kinds of operations that met a value they cannot work with. -/
inductive Defect where
  /-- A value of the right kind that is not acceptable. -/
  | value
  /-- A name that is not there. -/
  | lookup
  /-- A value of the wrong kind. -/
  | mismatch
  /-- A value without the operation asked of it. -/
  | operation
  /-- A number out of range. -/
  | overflow
  /-- A text that is no JSON document. -/
  | document
  /-- Bytes that are no text. -/
  | bytes
  /-- A text that has no bytes. -/
  | encoding
  /-- A failure of the operating system that has only a text. -/
  | system
  /-- An environment that lacks what is needed. -/
  | environment
  deriving DecidableEq, Repr

/-- What can go wrong. -/
inductive Fault where
  /-- A setting is missing or not usable. -/
  | setting (message : String)
  /-- A stage failed. -/
  | stage (fault : StageFault)
  /-- A file operation was refused. -/
  | file (fault : FileFault)
  /-- An operation met a value it cannot work with. -/
  | defect (kind : Defect) (message : String)
  deriving DecidableEq, Repr

namespace Fault

/-- The text for the operator. -/
def report : Fault → String
  | .setting message => message
  | .stage f => f.report
  | .file f => f.report
  | .defect _ message => message

/-- A value that is not acceptable. -/
def value (message : String) : Fault :=
  .defect .value message

end Fault

end ProofRelay
