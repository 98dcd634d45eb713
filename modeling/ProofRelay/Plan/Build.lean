import ProofRelay.Plan.Validate

/-!
# The plan of a published witness

## Main definitions

* `Witness` : a published witness.
* `Witness.mock` : the witness that stands in for a captured one.
* `Witness.plan` : the plan that proves a witness and verifies the proof.
-/

namespace ProofRelay

/-- A published witness: what the sandbox needs to fetch it.  The parts are values of a document,
as they stand in a plan. -/
structure Witness where
  /-- The checksum. -/
  checksum : Json
  /-- The name of the object. -/
  name : Json
  /-- The address of the object. -/
  url : Json
  deriving DecidableEq, Repr

namespace Witness

/-- The witness that stands in for a captured one. -/
def mock : Witness where
  checksum := .str "7dacd2a082c5794642d0fba5c68e52e23f3fb423d6e74fe87e27652b5a34f260"
  name := .str "witness-mock.json"
  url := .str "https://gevulot.eu-central-1.linodeobjects.com/witness-mock.json"

/-- Where the sandbox keeps a witness. -/
def sandboxPath (w : Witness) : Json :=
  .after (sandboxDirectory ++ "/") w.name

/-- The tasks that prove a witness and verify the proof, before they are checked. -/
def tasks (w : Witness) (prover verifier parameters : Json) : Plan Json where
  prover :=
    { program := prover
      arguments := [⟨.str parametersFlag, parameters⟩, ⟨.str proofFlag, .str proofPath⟩,
        ⟨.str witnessFlag, w.sandboxPath⟩]
      inputs := [.fetched w.checksum w.sandboxPath w.url] }
  verifier :=
    { program := verifier
      arguments := [⟨.str proofFlag, .str proofPath⟩]
      inputs := [.produced prover (.str proofPath)] }

/-- The plan that proves a witness and verifies the proof. -/
def plan (w : Witness) (prover verifier parameters : Json) : Except Fault (Plan Json) :=
  let p := w.tasks prover verifier parameters
  p.check.map fun _ => p

/-- The tasks of a witness fit together if the prover's program is a value that equals itself. -/
theorem plan_eq_ok (w : Witness) (prover verifier parameters : Json)
    (h : prover.same prover = true) :
    w.plan prover verifier parameters = .ok (w.tasks prover verifier parameters) := by
  simp [plan, tasks, Plan.check, Task.value?, Task.sources, checkSources, checkSource, h,
    proofFlag, parametersFlag, Except.map, Option.filter]

end Witness

end ProofRelay
