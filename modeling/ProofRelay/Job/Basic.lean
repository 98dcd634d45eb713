import ProofRelay.Files.Path
import ProofRelay.Plan.Build
import ProofRelay.Poll.Wait

/-!
# Jobs

The state of the block that is being worked on.  A job collects what its stages find out, and
where it stopped when one of them failed.

## Main definitions

* `JobStage` : the stages of a job, in order.
* `JobStatus` : how far a job is.
* `Job` : the state of a job.
* `Job.witness` : the published witness of a job.
-/

namespace ProofRelay

/-- The stages of a job, in order. -/
inductive JobStage where
  /-- The witness is captured. -/
  | capture
  /-- Its checksum is computed. -/
  | checksum
  /-- It is published. -/
  | publish
  /-- The plan is made. -/
  | plan
  /-- The plan is submitted. -/
  | submit
  /-- The verification is waited for. -/
  | poll
  /-- The verification is written to a file. -/
  | persist
  deriving DecidableEq, Repr

/-- The word for a stage. -/
def JobStage.name : JobStage → String
  | .capture => "capture"
  | .checksum => "checksum"
  | .publish => "publish"
  | .plan => "plan"
  | .submit => "submit"
  | .poll => "poll"
  | .persist => "persist"

/-- How far a job is. -/
inductive JobStatus where
  /-- Nothing is done yet. -/
  | created
  /-- The witness is captured. -/
  | captured
  /-- Its checksum is known. -/
  | checksummed
  /-- It is published. -/
  | published
  /-- The plan is made. -/
  | planned
  /-- The plan is submitted. -/
  | submitted
  /-- The block is verified and the verification written. -/
  | verified
  /-- The verification is not a structured document. -/
  | malformed
  /-- A stage failed. -/
  | failed
  deriving DecidableEq, Repr

namespace JobStatus

/-- The word for a status. -/
def name : JobStatus → String
  | created => "created"
  | captured => "captured"
  | checksummed => "checksummed"
  | published => "published"
  | planned => "planned"
  | submitted => "submitted"
  | verified => "verified"
  | malformed => "malformed"
  | failed => "failed"

/-- All statuses. -/
def all : List JobStatus :=
  [created, captured, checksummed, published, planned, submitted, verified, malformed, failed]

end JobStatus

/-- The state of a job. -/
structure Job where
  /-- The block. -/
  block : Int
  /-- The name of the witness; nothing until it is known. -/
  witnessName : Json
  /-- The checksum of the witness; nothing until it is known. -/
  witnessChecksum : Json
  /-- The address of the witness; nothing until it is known. -/
  witnessUrl : Json
  /-- The plan. -/
  plan : Option (Plan Json)
  /-- The transaction. -/
  transaction : Option String
  /-- What the polls found in the end. -/
  verification : Option PollResult
  /-- The file of the verification. -/
  resultPath : Option Path
  /-- How far the job is. -/
  status : JobStatus
  /-- The stage that failed. -/
  failedStage : Option JobStage
  /-- The time at which the job was started. -/
  startedAt : Float
  deriving Repr

namespace Job

/-- A job of which nothing is done yet. -/
def start (block : Int) (time : Float) : Job :=
  ⟨block, .null, .null, .null, none, none, none, none, .created, none, time⟩

/-- The published witness, once its name, checksum and address are known and not empty. -/
def witness (j : Job) : Except Fault Witness :=
  match j.witnessChecksum.given?, j.witnessName.given?, j.witnessUrl.given? with
  | some checksum, some name, some url => .ok ⟨checksum, name, url⟩
  | _, _, _ =>
    .error (.value ("block " ++ toString j.block ++ ": witness is not published yet"))

/-- The payload of the verification. -/
def payload? (j : Job) : Option String :=
  j.verification.map (·.payload)

end Job

end ProofRelay
