import ProofRelay.CommandLine.Parameters
import ProofRelay.CommandLine.Summary
import ProofRelay.Job.Run
import ProofRelay.Plan.Build
import ProofRelay.Plan.Reading
import ProofRelay.Setup.Report

/-!
# The commands

Every command reads its arguments into a record of what it is told to do, does it with the
settings, and ends with an exit status.  A fault that the operator can do something about is
reported and has a status of its own.

## Main definitions

* `ExitStatus` : the statuses.
* `RunTask`, `PlanTask`, `ResultTask`, `DoctorTask` : what the commands are told, each with its
  `parameters` and its activity.
-/

namespace ProofRelay.CommandLine

open ProofRelay.Text Activity

/-! ### Exit statuses -/

/-- How a command ends. -/
inductive ExitStatus where
  /-- All went well. -/
  | ok
  /-- A job or a check failed. -/
  | failed
  /-- A setting is missing, or the command was not given as it should be. -/
  | notSet
  /-- A verification was malformed. -/
  | malformed
  /-- There is no verification yet. -/
  | notReady
  /-- The operator asked to stop. -/
  | cancelled
  deriving DecidableEq, Repr

/-- The number of a status. -/
def ExitStatus.number : ExitStatus → Nat
  | ok => 0
  | failed => 1
  | notSet => 2
  | malformed => 3
  | notReady => 4
  | cancelled => 130

/-- The end of a command with a report. -/
def endWith (status : ExitStatus) (report : String) : Activity ExitStatus := do
  complain report
  return status

/-- The end of a command with a report of a problem. -/
def endWithProblem (status : ExitStatus) (problem : String) : Activity ExitStatus :=
  endWith status ("Error: " ++ problem)

/-! ### Running jobs -/

/-- What the command that runs jobs is told. -/
structure RunTask where
  /-- The first block. -/
  start : Option Int
  /-- Which blocks are taken. -/
  mode : RunMode
  /-- The number of blocks after which the run ends. -/
  limit : Option Int
  /-- Whether a witness stands in for the captured ones. -/
  mock : Bool
  /-- Whether a malformed verification ends the run. -/
  halt : Option Bool
  /-- The first delay between polls. -/
  interval : Option Float
  /-- The longest wait. -/
  maxWait : Option Float

namespace RunTask

/-- What the command is told when nothing is given. -/
def initial : RunTask := ⟨none, .fixed, none, false, none, none, none⟩

/-- The first block as a word. -/
def startParameter : Parameter RunTask where
  form := none
  isFirst := false
  read := fun given t =>
    match given.bind (·.value) with
    | none => .ok t
    | some text =>
      match wholeFrom 0 text with
      | .ok n => .ok { t with start := some n }
      | .error r => .error (.mistake (.value (quoted "[START_BLOCK]") r))

/-- The mode of a word. -/
def readMode (text : String) (t : RunTask) : Except ValueRefusal RunTask :=
  match RunMode.ofName? text with
  | some m => .ok { t with mode := m }
  | none => .error (.notOffered text (RunMode.all.map (·.name)))

/-- The pair of options that say whether a malformed verification ends the run. -/
def haltParameter : Parameter RunTask where
  form := some ⟨["--halt-on-malformed", "--keep-going"], false⟩
  isFirst := false
  read := fun given t =>
    match given with
    | none => .ok t
    | some g => .ok { t with halt := some (g.name == "--halt-on-malformed") }

/-- The parameters of the command. -/
def parameters : List (Parameter RunTask) :=
  [startParameter,
    .option ["--mode"] readMode,
    .option ["--count"] fun text t => do return { t with limit := some (← wholeFrom 1 text) },
    .switch ["--mock-witness"] fun t => { t with mock := true },
    haltParameter,
    .option ["--poll-interval"] fun text t => do
      return { t with interval := some (← positiveNumber text) },
    .option ["--max-wait"] fun text t => do
      return { t with maxWait := some (← naturalNumber text) },
    .help]

/-- The settings with what the command is told on top. -/
def settingsOver (t : RunTask) (s : Settings) : Except Fault Settings := do
  let poll ← PollPolicy.checked
    { s.poll with
      interval := t.interval.getD s.poll.interval, maxWait := t.maxWait <|> s.poll.maxWait }
  return { s with poll := poll, haltOnMalformed := t.halt.getD s.haltOnMalformed }

/-- The rounds of the command, with a bound on their number and on the polls of a job. -/
def rounds (t : RunTask) (s : Settings) (bound : Nat) : Activity Tally := do
  let chain ← if t.mode = .latest then
      some <$> ChainClient.connect s.rpcUrl ChainClient.standardTimeout
    else pure none
  let rounds : Rounds := ⟨t.mode, t.start <|> some s.startBlock, chain, s.haltOnMalformed, t.limit⟩
  rounds.run (runJob s t.mock bound) bound

/-- The end of the command at a fault; a defect is not reported here. -/
def endAt : Fault → Activity ExitStatus
  | .setting message => endWithProblem .notSet message
  | .stage f =>
    match f.cause with
    | .malformed .. => endWithProblem .malformed f.report
    | .cancelled => endWith .cancelled ("Stopped: " ++ f.report)
    | _ => endWithProblem .failed f.report
  | f => fail f

/-- The command, with what draws a table in an environment: it takes requests to stop from here
on. -/
def perform (t : RunTask) (drawn : List (String × String) → Table → Except Fault (List String))
    (s : Settings) (bound : Nat) : Activity ExitStatus := do
  let s ← ofExcept (t.settingsOver s)
  modify fun w => { w with stop := some (w.stop.getD ⟨false, none⟩) }
  match ← attempt (t.rounds s bound) with
  | .error f => endAt f
  | .ok tally =>
    draw (← ofExcept (drawn (← get).environment (summary tally)))
    return if tally.malformed.isEmpty then .ok else .malformed

end RunTask

/-! ### Showing a plan -/

/-- What the command that shows a plan is told. -/
structure PlanTask where
  /-- The checksum of the witness. -/
  checksum : String
  /-- The block that the witness is named for. -/
  block : Option Int
  /-- The name of the witness. -/
  name : Option String
  /-- The address of the witness. -/
  url : Option String
  /-- Whether the plan is shown over several lines. -/
  pretty : Bool

namespace PlanTask

/-- What the command is told when nothing is given. -/
def initial : PlanTask := ⟨"", none, none, none, false⟩

/-- The parameters of the command. -/
def parameters : List (Parameter PlanTask) :=
  [.required "--checksum" fun text t => { t with checksum := text },
    .option ["--block"] fun text t => do return { t with block := some (← wholeFrom 0 text) },
    .option ["--witness-name"] fun text t => .ok { t with name := some text },
    .option ["--witness-url"] fun text t => .ok { t with url := some text },
    .switch ["--pretty"] fun t => { t with pretty := true },
    .help]

/-- The name of the witness: the one given, or the one of the block. -/
def witnessName (t : PlanTask) : Except Halt String :=
  match present t.name, t.block with
  | some name, _ => .ok name
  | none, some n =>
    match witnessFileName n with
    | .ok name => .ok name
    | .error f => .error (.broken f)
  | none, none => .error (.mistake .unnamedWitness)

/-- The address of the witness: the one given, or the one of the object of that name. -/
def witnessUrl (t : PlanTask) (s : Settings) (name : String) : Except Fault String :=
  match present t.url with
  | some url => .ok url
  | none => s.storage.objectUrl name

/-- The settings that a plan needs and that are missing. -/
def missing (s : Settings) : List String :=
  [("PROVER_HASH", s.proverHash), ("VERIFIER_HASH", s.verifierHash),
    ("PARAMS_PATH", s.taskParametersPath)].filterMap fun p =>
      if p.2.isFalsy then some p.1 else none

/-- A plan as it is shown: over several lines, its document is read again first. -/
def shown (t : PlanTask) (p : Plan Json) : Except Fault String :=
  if t.pretty then
    match Json.read p.document with
    | .error e => .error (documentFault e p.document)
    | .ok v => .ok v.indented
  else .ok p.document

/-- The command for a witness of a given name. -/
def perform (t : PlanTask) (s : Settings) (name : String) : Activity ExitStatus := do
  let url ← ofExcept (t.witnessUrl s name)
  let missing := missing s
  if missing.isEmpty then
    let witness : Witness := ⟨.str t.checksum, .str name, .str url⟩
    let p ← ofExcept (witness.plan s.proverHash s.verifierHash s.taskParametersPath)
    print (← ofExcept (t.shown p))
    return .ok
  else
    endWithProblem .notSet ("not configured: " ++ ", ".intercalate missing)

end PlanTask

/-! ### Polling a transaction -/

/-- What the command that polls a transaction once is told. -/
structure ResultTask where
  /-- The transaction. -/
  transaction : String

namespace ResultTask

/-- What the command is told when nothing is given. -/
def initial : ResultTask := ⟨""⟩

/-- The transaction as a word. -/
def transactionParameter : Parameter ResultTask where
  form := none
  isFirst := false
  read := fun given _ =>
    match given.bind (·.value) with
    | none => .error (.mistake (.missingWord "TX_HASH"))
    | some text => .ok ⟨text⟩

/-- The parameters of the command. -/
def parameters : List (Parameter ResultTask) :=
  [transactionParameter, .help]

/-- The end of the command at a fault; a defect is not reported here. -/
def endAt : Fault → Activity ExitStatus
  | .setting message => endWithProblem .notSet message
  | .stage f =>
    if f.cause = .noLeaf then endWith .notReady ("pending: " ++ f.report)
    else endWithProblem .failed f.report
  | f => fail f

/-- The status for a verdict. -/
def statusOf : Verdict → ExitStatus
  | .pending => .notReady
  | .verified => .ok
  | .malformed => .malformed

/-- The leaf and the payload of a transaction. -/
def look (s : Settings) (transaction : String) : Activity (String × String) := do
  let leaf ← requireLeaf s transaction
  return (leaf, ← fetchPayload s leaf)

/-- The command. -/
def perform (t : ResultTask) (s : Settings) : Activity ExitStatus := do
  match ← attempt (look s t.transaction) with
  | .error f => endAt f
  | .ok (leaf, payload) =>
    let verdict := Verdict.ofPayload payload
    print ("leaf: " ++ leaf)
    print ("state: " ++ verdict.name)
    unless payload.isEmpty do print payload
    return statusOf verdict

end ResultTask

/-! ### Checking the setup -/

/-- What the command that checks the setup is told. -/
structure DoctorTask where
  /-- Whether the chain's service is needed. -/
  needChain : Bool

namespace DoctorTask

/-- What the command is told when nothing is given. -/
def initial : DoctorTask := ⟨false⟩

/-- The parameters of the command. -/
def parameters : List (Parameter DoctorTask) :=
  [.switch ["--need-chain"] fun t => { t with needChain := true }, .help]

/-- The command. -/
def perform (t : DoctorTask) (s : Settings) : Activity ExitStatus := do
  let checks ← checkSetup s t.needChain
  print (setupReport checks)
  return if setupIsUsable checks then .ok else .failed

end DoctorTask

end ProofRelay.CommandLine
