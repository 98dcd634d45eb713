import ProofRelay.Json.Access
import ProofRelay.Json.Reader
import ProofRelay.Plan.Validate

/-!
# Reading plans

A plan read from a document of any shape.  The parts are taken in the order in which they are
written down in a plan, so that of several faults the first one is reported; leaves are kept as
they are.

## Main definitions

* `Plan.ofJson` : the plan that a value describes.
* `Plan.read` : the plan of a document, checked.
-/

namespace ProofRelay

/-- The argument that a value describes. -/
def Argument.ofJson (v : Json) : Except Fault (Argument Json) := do
  let name ← v.index "name"
  let value ← v.index "value"
  return ⟨name, value⟩

/-- The binding of a fetched file that a value describes. -/
def Binding.fetchedOfJson (v : Json) : Except Fault (Binding Json) := do
  let checksum ← v.index "local_path"
  let path ← v.index "vm_path"
  let url ← v.index "file_url"
  return .fetched checksum path url

/-- The binding to another task that a value describes. -/
def Binding.producedOfJson (v : Json) : Except Fault (Binding Json) := do
  let program ← v.index "source_program"
  let file ← v.index "file_name"
  return .produced program file

/-- The fault of a value that describes no binding: it lists its parts in ascending order. -/
def Binding.unknown (v : Json) : Except Fault (Binding Json) := do
  let parts ← v.itemsOf
  match Json.sorted parts with
  | .ok parts => .error (.value ("unknown input binding: " ++ (Json.arr parts).spelled))
  | .error e => .error (.defect .mismatch e.report)

/-- The binding that a value describes. -/
def Binding.ofJson (v : Json) : Except Fault (Binding Json) := do
  if ← v.holds "Input" then fetchedOfJson (← v.index "Input")
  else if ← v.holds "Output" then producedOfJson (← v.index "Output")
  else unknown v

/-- The results of reading the items of a field that may be missing. -/
def readItems {β : Type} (v : Json) (key : String) (read : Json → Except Fault β) :
    Except Fault (List β) := do
  let items ← ((← v.fieldOf? key).getD (.arr [])).itemsOf
  items.mapM read

/-- The task that a value describes. -/
def Task.ofJson (v : Json) : Except Fault (Task Json) := do
  let program ← v.index "program"
  let arguments ← readItems v "cmd_args" Argument.ofJson
  let inputs ← readItems v "inputs" Binding.ofJson
  return ⟨program, arguments, inputs⟩

/-- The plan that a value describes. -/
def Plan.ofJson : Json → Except Fault (Plan Json)
  | .arr [prover, verifier] => do
    return ⟨← Task.ofJson prover, ← Task.ofJson verifier⟩
  | _ => .error (.value "task plan must be a JSON array of exactly two tasks")

/-- The fault of a text that is no document. -/
def documentFault (r : Json.Refusal) (text : String) : Fault :=
  .defect (if r.isOfForm then .document else .value) (r.message text.toList)

/-- The plan of a document, checked. -/
def Plan.read (text : String) : Except Fault (Plan Json) :=
  match Json.read text with
  | .error e => .error (documentFault e text)
  | .ok v => do
    let p ← Plan.ofJson v
    p.check
    return p

end ProofRelay
