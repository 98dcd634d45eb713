import ProofRelay.Json.Basic
import ProofRelay.Json.Printer

/-!
# Task plans

The plan submitted to the network has two tasks.  The prover's task writes its proof to a fixed
path inside the sandbox, and the verifier's task reads it from there; the binding that names the
prover's program and that path tells the network that the verifier has to wait.

A plan is written over any type of leaves.  The plans that are submitted and read have values of
a document as leaves, since the settings that go into a plan may be of any kind; a plan of texts
is one of them by `Plan.map`.

## Main definitions

* `Plan` : a plan, with `Task`, `Argument` and `Binding`.
* `Plan.map` : a plan with other leaves.
* `Plan.toJson`, `Plan.document` : the plan as a document.
* `proofPath` : where the proof is written and read.
-/

namespace ProofRelay

/-- A named argument of a program. -/
structure Argument (α : Type) where
  /-- The name, as a flag. -/
  name : α
  /-- The value. -/
  value : α
  deriving DecidableEq, Repr

/-- A file that a task reads. -/
inductive Binding (α : Type) where
  /-- A file fetched into the sandbox from a URL, known by its checksum. -/
  | fetched (checksum path url : α)
  /-- A file that another task of the plan writes. -/
  | produced (program file : α)
  deriving DecidableEq, Repr

/-- A program run in the sandbox. -/
structure Task (α : Type) where
  /-- The identity of the program. -/
  program : α
  /-- Its arguments. -/
  arguments : List (Argument α)
  /-- The files it reads. -/
  inputs : List (Binding α)
  deriving DecidableEq, Repr

/-- A plan of two tasks. -/
structure Plan (α : Type) where
  /-- The task that writes the proof. -/
  prover : Task α
  /-- The task that checks the proof. -/
  verifier : Task α
  deriving DecidableEq, Repr

/-! ### Fixed names -/

/-- The directory of the sandbox. -/
def sandboxDirectory : String := "/workspace"

/-- Where the proof is written and read. -/
def proofPath : String := sandboxDirectory ++ "/proof.json"

/-- The flag of the parameter file. -/
def parametersFlag : String := "-k"

/-- The flag of the proof. -/
def proofFlag : String := "-p"

/-- The flag of the witness. -/
def witnessFlag : String := "-w"

/-! ### Other leaves -/

section Map

variable {α β : Type} (f : α → β)

/-- An argument with other leaves. -/
def Argument.map (a : Argument α) : Argument β :=
  ⟨f a.name, f a.value⟩

/-- A binding with other leaves. -/
def Binding.map : Binding α → Binding β
  | fetched checksum path url => .fetched (f checksum) (f path) (f url)
  | produced program file => .produced (f program) (f file)

/-- A task with other leaves. -/
def Task.map (t : Task α) : Task β :=
  ⟨f t.program, t.arguments.map (·.map f), t.inputs.map (·.map f)⟩

/-- A plan with other leaves. -/
def Plan.map (p : Plan α) : Plan β :=
  ⟨p.prover.map f, p.verifier.map f⟩

end Map

/-! ### Plans as documents -/

/-- An argument as a value. -/
def Argument.toJson (a : Argument Json) : Json :=
  .obj [("name", a.name), ("value", a.value)]

/-- A binding as a value. -/
def Binding.toJson : Binding Json → Json
  | fetched checksum path url =>
    .obj [("Input", .obj [("local_path", checksum), ("vm_path", path), ("file_url", url)])]
  | produced program file =>
    .obj [("Output", .obj [("source_program", program), ("file_name", file)])]

/-- A task as a value. -/
def Task.toJson (t : Task Json) : Json :=
  .obj [("program", t.program), ("cmd_args", .arr (t.arguments.map (·.toJson))),
    ("inputs", .arr (t.inputs.map (·.toJson)))]

/-- A plan as a value: the list of its tasks. -/
def Plan.toJson (p : Plan Json) : Json :=
  .arr [p.prover.toJson, p.verifier.toJson]

/-- The document of a plan. -/
def Plan.document (p : Plan Json) : String :=
  p.toJson.compact

end ProofRelay
