import ProofRelay.Network.Client
import ProofRelay.Storage.Publish

/-!
# Running jobs

A job takes one block from the capture of its witness to a file with the verification.  A stage
that fails ends the job, and nothing is tried again but pending polls.

## Main definitions

* `inStage` : a stage, whose fault learns where it happened.
* `resultPath` : the file of a block's verification.
* `runJob` : the job of a block.
-/

namespace ProofRelay

open Activity

/-- The part of the program that logs here. -/
def jobLogSource : String := "orchestrator"

/-- A change of the job in hand. -/
def updateJob (change : Job → Job) : Activity Unit :=
  modify fun w => { w with job := w.job.map change }

/-- A change of the status of the job in hand. -/
def setStatus (status : JobStatus) : Activity Unit :=
  updateJob fun j => { j with status := status }

/-- The mark of a failed stage; a malformed verification keeps its status. -/
def markFailed (stage : JobStage) : Activity Unit :=
  updateJob fun j =>
    { j with
      status := if j.status = .malformed then .malformed else .failed
      failedStage := some stage }

/-- A stage, whose fault learns the block and the stage and marks the job as failed.  A missing
setting marks it too; a defect passes unchanged. -/
def inStage {α : Type} (block : Int) (stage : JobStage) (a : Activity α) : Activity α := do
  logDebug jobLogSource ("block " ++ toString block ++ ": stage " ++ stage.name)
  onFault a fun
    | .stage f => do
      markFailed stage
      log .error jobLogSource
        ("block " ++ toString block ++ ": " ++ stage.name ++ " failed: " ++ f.message)
      fail (.stage (f.passing block stage.name))
    | .setting message => do
      markFailed stage
      fail (.setting message)
    | f => fail f

/-! ### The witness -/

/-- The witness that stands in for a captured one. -/
def takeMockWitness (block : Int) : Activity Unit := do
  logWarning jobLogSource
    ("block " ++ toString block ++ ": using mock witness " ++ Witness.mock.name.shown)
  updateJob fun j =>
    { j with
      witnessName := Witness.mock.name
      witnessChecksum := Witness.mock.checksum
      witnessUrl := Witness.mock.url
      status := .published }

/-- A captured witness with its checksum and address. -/
def takeWitness (s : Settings) (block : Int) : Activity Unit := do
  let p ← inStage block .capture do
    let p ← captureWitness s block
    updateJob fun j => { j with witnessName := .str p.name, status := .captured }
    return p
  inStage block .checksum do
    let checksum ← witnessChecksum s block
    updateJob fun j => { j with witnessChecksum := .str checksum, status := .checksummed }
  inStage block .publish do
    let url ← s.storage.publish p p.name
    updateJob fun j => { j with witnessUrl := .str url, status := .published }

/-! ### The plan -/

/-- A setting that a plan needs. -/
def required (value : Json) (name : String) : Except Fault Json :=
  match value.given? with
  | some v => .ok v
  | none => .error (.setting (name ++ " is not configured"))

/-- The plan of a job's witness. -/
def jobPlan (s : Settings) (j : Job) : Except Fault (Plan Json) := do
  let witness ← j.witness
  let prover ← required s.proverHash "programs.prover_hash (PROVER_HASH)"
  let verifier ← required s.verifierHash "programs.verifier_hash (VERIFIER_HASH)"
  let parameters ← required s.taskParametersPath "witness.params_path (PARAMS_PATH)"
  witness.plan prover verifier parameters

/-- The job in hand. -/
def currentJob (block : Int) : Activity Job := do
  let w ← get
  return w.job.getD (.start block w.clock)

/-- The plan of the job in hand. -/
def makePlan (s : Settings) (block : Int) : Activity (Plan Json) :=
  inStage block .plan do
    let p ← ofExcept (jobPlan s (← currentJob block))
    updateJob fun j => { j with plan := some p, status := .planned }
    return p

/-- The transaction of a plan. -/
def submitJob (s : Settings) (block : Int) (p : Plan Json) : Activity String :=
  inStage block .submit do
    let transaction ← submitPlan s p
    updateJob fun j => { j with transaction := some transaction, status := .submitted }
    return transaction

/-! ### The verification -/

/-- The verification of a transaction, which has to be a structured document. -/
def awaitVerification (s : Settings) (block : Int) (transaction : String) (bound : Nat) :
    Activity PollResult :=
  inStage block .poll do
    let result ← waitForVerdict s transaction bound
    updateJob fun j => { j with verification := some result }
    if result.verdict = .malformed then
      setStatus .malformed
      fail (.stage (.ofMalformed result.payload (some transaction) result.leaf (some block)))
    else
      return result

/-- The file of a block's verification. -/
def resultPath (s : Settings) (block : Int) : Except Fault Path := do
  return (← s.resultsRoot).join ("result-" ++ toString block)

/-- A payload in a file: it is written beside the file first, and then moved. -/
def writePayload (p : Path) (payload : String) : Activity Unit := do
  changeFiles (·.makeDirectories p.parent)
  let beside := p.extended ".tmp"
  changeFiles fun t => t.orSame (t.writeFile beside (Text.Utf8.ofString payload))
  changeFiles fun t => t.orSame (t.renameFile beside p)

/-- The verification of a block in its file. -/
def persistResult (s : Settings) (block : Int) (payload : String) : Activity Path :=
  inStage block .persist do
    let p ← ofExcept (resultPath s block)
    onFault (writePayload p payload) fun
      | .file f =>
        fail (.stage (.of .general
          ("could not write result file " ++ p.toString ++ ": " ++ f.report)))
      | f => fail f
    updateJob fun j => { j with resultPath := some p }
    return p

/-! ### The whole job -/

/-- The start of a job. -/
def startJob (block : Int) : Activity Unit := do
  modify fun w => { w.note (.started block) with job := some (.start block w.clock) }
  logInfo jobLogSource ("block " ++ toString block ++ ": starting")

/-- The end of a job. -/
def finishJob (block : Int) (p : Path) : Activity Unit := do
  setStatus .verified
  let j ← currentJob block
  let elapsed ← wholeSeconds ((← now) - j.startedAt)
  logInfo jobLogSource
    ("block " ++ toString block ++ ": verified in " ++ elapsed ++ "s, result at " ++ p.toString)

/-- The job of a block, with a bound on its polls. -/
def runJob (s : Settings) (mock : Bool) (bound : Nat) (block : Int) : Activity Unit := do
  if block < 0 then
    fail (.value ("block number must be non-negative, got " ++ toString block))
  startJob block
  if mock then takeMockWitness block else takeWitness s block
  let p ← makePlan s block
  let transaction ← submitJob s block p
  let result ← awaitVerification s block transaction bound
  let file ← persistResult s block result.payload
  finishJob block file

end ProofRelay
