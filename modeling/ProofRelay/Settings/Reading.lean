import ProofRelay.Json.Number
import ProofRelay.Settings.Basic

/-!
# Reading settings

The settings that a document describes.  Numbers are read and checked at once; every other setting
is taken as the document writes it.

## Main definitions

* `Settings.ofFields` : the settings of a document.
-/

namespace ProofRelay.Settings

/-- The section of a document; a missing one is empty. -/
def area (fields : Json.Fields) (name : String) : Json :=
  (Json.get? name fields).getD (.obj [])

/-- The value of a setting; a missing one is nothing. -/
def setting (area : Json) (name : String) : Except Fault Json := do
  return (← area.fieldOf? name).getD .null

/-- The value of a setting, or a text when it counts as absent. -/
def settingOr (area : Json) (name text : String) : Except Fault Json := do
  return (← setting area name).orElse (.str text)

/-- The number of a setting; a missing one has a given value. -/
def numberOr (area : Json) (name : String) (x : Float) : Except Fault Float := do
  match ← area.fieldOf? name with
  | none => return x
  | some v => v.toFloat

/-- The number of a setting that may be nothing. -/
def number? : Json → Except Fault (Option Float)
  | .null => .ok none
  | v => v.toFloat.map some

/-- The settings of the object storage. -/
def readStorage (area : Json) : Except Fault StorageSettings := do
  return {
    endpoint := ← setting area "endpoint_url"
    bucket := ← settingOr area "bucket" "gevulot"
    region := ← setting area "region"
    accessKey := ← setting area "access_key"
    secretKey := ← setting area "secret_key"
    access := ← settingOr area "acl" "public-read"
    publicUrl := ← setting area "public_base_url" }

/-- The delay schedule, checked. -/
def readPoll (area maxWait : Json) : Except Fault (PollPolicy Float) := do
  let interval ← numberOr area "interval_seconds" 10
  let factor ← numberOr area "backoff_factor" 1
  let cap ← numberOr area "max_interval_seconds" 300
  let maxWait ← number? maxWait
  PollPolicy.checked ⟨interval, factor, cap, maxWait⟩

/-- The block that a run starts with. -/
def readStart (fields : Json.Fields) : Except Fault Int :=
  match Json.get? "default_start_block" fields with
  | none => .ok standardStartBlock
  | some v => v.toInt

/-- The settings that a document describes.  They are taken in a fixed order, so that of several
faults the first one is reported; the longest wait is looked up before all others. -/
def ofFields (fields : Json.Fields) (workdir : Path) : Except Fault Settings := do
  let witness := area fields "witness"
  let network := area fields "network"
  let programs := area fields "programs"
  let poll := area fields "poll"
  let paths := area fields "paths"
  let maxWait ← setting poll "max_wait_seconds"
  return {
    rpcUrl := ← setting (area fields "chain") "rpc_url"
    proverCommand := ← settingOr witness "prover_cmd" "prover_cmd"
    parametersPath := ← setting witness "params_path"
    witnessRpcUrl := ← setting witness "rpc_url"
    sandboxParametersPath := ← setting witness "sandbox_params_path"
    networkCommand := ← settingOr network "cli" "gevulot-cli"
    networkUrl := ← settingOr network "rpc_url" "http://localhost:9944"
    networkLogFilter := ← setting network "log_filter"
    proverHash := ← setting programs "prover_hash"
    verifierHash := ← setting programs "verifier_hash"
    storage := ← readStorage (area fields "storage")
    poll := ← readPoll poll maxWait
    workdir := workdir
    witnessDir := ← settingOr paths "witness_dir" "witnesses"
    resultsDir := ← settingOr paths "results_dir" "results"
    haltOnMalformed := !((Json.get? "halt_on_malformed" fields).getD (.bool true)).isFalsy
    startBlock := ← readStart fields }

end ProofRelay.Settings
