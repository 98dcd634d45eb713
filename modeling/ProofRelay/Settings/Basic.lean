import ProofRelay.Files.Path
import ProofRelay.Poll.Policy
import ProofRelay.Storage.ObjectUrl

/-!
# Settings

What a run needs to know before it starts.  The numbers of the delay schedule are read and checked
when the settings are made; every other setting is a value of any kind, and stays one until
something is done with it for which only a text will do.

## Main definitions

* `Settings` : the settings of a run.
* `Settings.standard` : the settings that hold when nothing is said.
* `Settings.witnessRoot`, `Settings.resultsRoot` : the directories that a run writes to.
* `Settings.captureUrl`, `Settings.taskParametersPath` : settings with a second choice.
-/

namespace ProofRelay

/-- The settings of a run. -/
structure Settings where
  /-- The address of the chain's service. -/
  rpcUrl : Json
  /-- The program that captures witnesses. -/
  proverCommand : Json
  /-- The parameter file of the capture program. -/
  parametersPath : Json
  /-- The data source of the capture program. -/
  witnessRpcUrl : Json
  /-- The parameter file as the sandbox sees it. -/
  sandboxParametersPath : Json
  /-- The network's tool. -/
  networkCommand : Json
  /-- The address of the network. -/
  networkUrl : Json
  /-- What the network's tool logs. -/
  networkLogFilter : Json
  /-- The identity of the prover's program. -/
  proverHash : Json
  /-- The identity of the verifier's program. -/
  verifierHash : Json
  /-- The object storage. -/
  storage : StorageSettings
  /-- The delay schedule. -/
  poll : PollPolicy Float
  /-- The working directory. -/
  workdir : Path
  /-- The directory of the witnesses. -/
  witnessDir : Json
  /-- The directory of the results. -/
  resultsDir : Json
  /-- Whether a malformed verification ends a run. -/
  haltOnMalformed : Bool
  /-- The block that a run starts with. -/
  startBlock : Int

/-- The directory that a setting names, under a working directory. -/
def Path.under (workdir : Path) (directory : Json) : Except Fault Path :=
  match directory.text? with
  | some s => .ok (workdir.join s)
  | none =>
    Json.mismatch
      ("unsupported operand type(s) for /: 'PosixPath' and '" ++ directory.kindName ++ "'")

namespace Settings

/-- The block that a run starts with when none is set. -/
def standardStartBlock : Int := 57437

/-- The settings of the object storage that hold when nothing is said. -/
def standardStorage : StorageSettings where
  endpoint := .null
  bucket := .str "gevulot"
  region := .null
  accessKey := .null
  secretKey := .null
  access := .str "public-read"
  publicUrl := .null

/-- The settings that hold when nothing is said. -/
def standard (workdir : Path) : Settings where
  rpcUrl := .null
  proverCommand := .str "prover_cmd"
  parametersPath := .null
  witnessRpcUrl := .null
  sandboxParametersPath := .null
  networkCommand := .str "gevulot-cli"
  networkUrl := .str "http://localhost:9944"
  networkLogFilter := .str "trace,gevulot=trace"
  proverHash := .null
  verifierHash := .null
  storage := standardStorage
  poll := .standard
  workdir := workdir
  witnessDir := .str "witnesses"
  resultsDir := .str "results"
  haltOnMalformed := true
  startBlock := standardStartBlock

/-- The directory of the witnesses. -/
def witnessRoot (s : Settings) : Except Fault Path :=
  s.workdir.under s.witnessDir

/-- The directory of the results. -/
def resultsRoot (s : Settings) : Except Fault Path :=
  s.workdir.under s.resultsDir

/-- The data source of the capture program: its own one, or the chain's service. -/
def captureUrl (s : Settings) : Json :=
  s.witnessRpcUrl.orElse s.rpcUrl

/-- The parameter file as the sandbox sees it, or the one of the capture program. -/
def taskParametersPath (s : Settings) : Json :=
  s.sandboxParametersPath.orElse s.parametersPath

end Settings

end ProofRelay
