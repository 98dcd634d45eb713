import ProofRelay.Settings.Basic
import ProofRelay.World.Activity

/-!
# Checks of a setup

Before a run, everything that it needs from outside is looked at: the tools, the parameter file,
the data source, the chain, the identities of the two programs, the storage credentials, the
directories, and the delay schedule.

## Main definitions

* `SetupCheck` : the outcome of one check.
* `checkSetup` : all checks in order.
* `setupIsUsable` : whether none of them failed.
-/

namespace ProofRelay

open ProofRelay.Text ProofRelay.Decimal Activity

/-- The outcome of one check. -/
structure SetupCheck where
  /-- What was looked at. -/
  name : String
  /-- The outcome: `pass`, `warn` or `fail`. -/
  status : String
  /-- What was found: a text, or the value of a setting. -/
  detail : Json
  /-- What the operator can do. -/
  hint : Option String
  deriving DecidableEq, Repr

namespace SetupCheck

/-- A check that passed. -/
def pass (name detail : String) : SetupCheck :=
  ⟨name, "pass", .str detail, none⟩

/-- A check that failed. -/
def failure (name detail : String) (hint : Option String) : SetupCheck :=
  ⟨name, "fail", .str detail, hint⟩

end SetupCheck

/-! ### Programs -/

/-- Whether access to a path is granted. -/
def mayAccess (w : World) (p : Path) : Bool :=
  !w.denied.checks.contains p.toString

/-- The path of a name in a directory, as it is written. -/
def writtenIn (directory name : String) : String :=
  if directory.isEmpty then name
  else if directory.toList.getLast? = some '/' then directory ++ name
  else directory ++ "/" ++ name

/-- Whether the search for a program finds one at a path, as it is written. -/
def isProgramAt (w : World) (path : String) : Bool :=
  w.files.isRunnable (.ofString path) && !(Path.ofString path).hasNull &&
    !w.denied.search.contains path

/-- The directories of the search path: those of the environment, or else those of the system. -/
def searchPath (w : World) : String :=
  (w.valueOf? "PATH").getD w.host.searchPath

/-- The first program of a name in the directories of the search path. -/
def searchProgram (w : World) (name : String) : Option String :=
  if name.isEmpty || name.toList.contains '/' || (searchPath w).isEmpty then none
  else ((cutAt ':' (searchPath w)).map (writtenIn · name)).find? (isProgramAt w)

/-- The program that a command starts: a file when the command is written as a path, and
otherwise the first one on the search path. -/
def findProgram (command : String) : Activity (Option String) := do
  let p := Path.ofString command
  if p.parent ≠ ⟨"", []⟩ || command.toList.head? = some '.' then
    let isFile ← isFileAt p
    let w ← get
    return if isFile && mayAccess w p && w.files.isRunnable p then some p.toString else none
  else
    return searchProgram (← get) command

/-- The check of a program. -/
def checkProgram (name : String) (command : Json) (hint : String) : Activity SetupCheck := do
  let command ← ofExcept command.pathText
  match ← findProgram command with
  | some found => return .pass name (command ++ " -> " ++ found)
  | none => return .failure name ("not executable: " ++ command) (some hint)

/-! ### Settings -/

/-- The check of the parameter file. -/
def checkParameters (s : Settings) : Activity SetupCheck := do
  match s.parametersPath.given? with
  | none => return .failure "params" "no parameter file configured" (some "set PARAMS_PATH")
  | some file => do
    let file ← ofExcept file.pathText
    if ← isFileAt (.ofString file) then
      return .pass "params" ("parameter file found: " ++ file)
    else
      return .failure "params" ("parameter file missing: " ++ file) none

/-- The check of the data source. -/
def checkDataSource (s : Settings) : SetupCheck :=
  match s.captureUrl.given? with
  | some url => .pass "witness_source" ("capture data source: " ++ url.shown)
  | none =>
    .failure "witness_source" "no data source for witness capture" (some "set KATLA_ENDPOINT")

/-- The check of the chain's service, which not every run needs. -/
def checkChain (s : Settings) (needed : Bool) : SetupCheck :=
  match s.rpcUrl.given? with
  | some url => .pass "chain_rpc" ("chain RPC: " ++ url.shown)
  | none =>
    ⟨"chain_rpc", if needed then "fail" else "warn", .str "no chain RPC endpoint",
      some "needed for --mode latest; set KATLA_ENDPOINT"⟩

/-- The check of the identity of a program. -/
def checkIdentity (name variableName : String) (value : Json) : SetupCheck :=
  match value.given? with
  | some hash => ⟨name, "pass", hash, none⟩
  | none => .failure name "program identity not set" (some ("set " ++ variableName))

/-- The check of the storage credentials. -/
def checkStorage (s : StorageSettings) : SetupCheck :=
  if s.accessKey.given?.isSome && s.secretKey.given?.isSome then
    .pass "storage" ("bucket " ++ s.bucket.shown ++ " at " ++ s.endpoint.shown)
  else
    .failure "storage" "object storage credentials missing"
      (some "set AWS_ACCESS_KEY and AWS_SECRET_KEY")

/-- The check of the delay schedule. -/
def checkPoll (p : PollPolicy Float) : SetupCheck :=
  match p.maxWait with
  | none =>
    ⟨"poll", "warn", .str ("every " ++ brief p.interval ++ "s with no max wait"),
      some "set BLOCKPROVER_POLL_MAX_WAIT to bound a stuck transaction"⟩
  | some limit =>
    .pass "poll" ("every " ++ brief p.interval ++ "s, give up after " ++ brief limit ++ "s")

/-! ### Directories -/

/-- The first of several paths at which there is something. -/
def firstEntry : List Path → Activity (Option Path)
  | [] => return none
  | p :: ps => do
    if (← entryAt p).isSome then return some p else firstEntry ps

/-- The check of a directory that is there or can be made. -/
def checkDirectory (name : String) (p : Path) : Activity SetupCheck := do
  match ← entryAt p with
  | some (.directory _) =>
    if mayAccess (← get) p then return .pass name ("writable: " ++ p.toString)
    else return .failure name ("not writable: " ++ p.toString) none
  | _ =>
    match ← firstEntry p.parents with
    | some above =>
      if mayAccess (← get) above then return .pass name ("will be created: " ++ p.toString)
      else return .failure name ("cannot create: " ++ p.toString) none
    | none => return .failure name ("cannot create: " ++ p.toString) none

/-! ### All checks -/

/-- All checks in order. -/
def checkSetup (s : Settings) (needChain : Bool) : Activity (List SetupCheck) := do
  let prover ← checkProgram "prover_cmd" s.proverCommand
    "set PROVER_CMD_PATH to the witness capture executable"
  let network ← checkProgram "network_cli" s.networkCommand
    "set GEVULOT_CLI to the execution network CLI"
  let parameters ← checkParameters s
  let witnesses ← checkDirectory "witness_dir" (← ofExcept s.witnessRoot)
  let results ← checkDirectory "results_dir" (← ofExcept s.resultsRoot)
  return [prover, network, parameters, checkDataSource s, checkChain s needChain,
    checkIdentity "prover_hash" "PROVER_HASH" s.proverHash,
    checkIdentity "verifier_hash" "VERIFIER_HASH" s.verifierHash, checkStorage s.storage,
    witnesses, results, checkPoll s.poll]

/-- Whether no check failed. -/
def setupIsUsable (checks : List SetupCheck) : Bool :=
  checks.all fun c => c.status ≠ "fail"

end ProofRelay
