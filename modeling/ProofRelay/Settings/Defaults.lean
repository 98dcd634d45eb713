import ProofRelay.Json.Basic

/-!
# Default settings and variables

The lowest layer of settings, and the variables of the environment that replace single ones.

## Main definitions

* `defaultDocument` : the lowest layer.
* `textVariables` : the variables of settings that are texts.
* `numberVariables` : the variables of settings that are numbers.
-/

namespace ProofRelay

/-- Where a setting stands in a document: the name of its section and its own name. -/
structure SettingKey where
  /-- The name of the section. -/
  area : String
  /-- The name of the setting. -/
  name : String
  deriving DecidableEq, Repr

/-- The lowest layer of settings. -/
def defaultDocument : Json.Fields :=
  [("chain", .obj [("rpc_url", .null)]),
    ("witness", .obj [("prover_cmd", .str "prover_cmd"), ("params_path", .null),
      ("rpc_url", .null), ("sandbox_params_path", .null)]),
    ("network", .obj [("cli", .str "gevulot-cli"), ("rpc_url", .str "http://localhost:9944"),
      ("log_filter", .str "trace,gevulot=trace")]),
    ("storage", .obj [("endpoint_url", .str "https://eu-central-1.linodeobjects.com"),
      ("bucket", .str "gevulot"), ("region", .str "eu-central-1"), ("access_key", .null),
      ("secret_key", .null), ("acl", .str "public-read"), ("public_base_url", .null)]),
    ("programs", .obj [("prover_hash", .null), ("verifier_hash", .null)]),
    ("poll", .obj [("interval_seconds", .float 10), ("backoff_factor", .float 1),
      ("max_interval_seconds", .float 300), ("max_wait_seconds", .null)]),
    ("paths", .obj [("witness_dir", .str "witnesses"), ("results_dir", .str "results")]),
    ("halt_on_malformed", .bool true),
    ("default_start_block", .int 57437)]

/-- The variables of settings that are texts; of several that are set the first one counts. -/
def textVariables : List (SettingKey × List String) :=
  [(⟨"chain", "rpc_url"⟩, ["BLOCKPROVER_RPC_URL", "KATLA_ENDPOINT"]),
    (⟨"witness", "rpc_url"⟩, ["BLOCKPROVER_WITNESS_RPC_URL"]),
    (⟨"witness", "prover_cmd"⟩, ["BLOCKPROVER_PROVER_CMD", "PROVER_CMD_PATH"]),
    (⟨"witness", "params_path"⟩, ["BLOCKPROVER_PARAMS_PATH", "PARAMS_PATH"]),
    (⟨"witness", "sandbox_params_path"⟩, ["BLOCKPROVER_SANDBOX_PARAMS_PATH"]),
    (⟨"network", "cli"⟩, ["BLOCKPROVER_NETWORK_CLI", "GEVULOT_CLI"]),
    (⟨"network", "rpc_url"⟩, ["BLOCKPROVER_NETWORK_URL", "GEVULOT_JSONURL"]),
    (⟨"storage", "endpoint_url"⟩, ["BLOCKPROVER_S3_ENDPOINT"]),
    (⟨"storage", "bucket"⟩, ["BLOCKPROVER_S3_BUCKET"]),
    (⟨"storage", "region"⟩, ["BLOCKPROVER_S3_REGION"]),
    (⟨"storage", "access_key"⟩, ["BLOCKPROVER_S3_ACCESS_KEY", "AWS_ACCESS_KEY"]),
    (⟨"storage", "secret_key"⟩, ["BLOCKPROVER_S3_SECRET_KEY", "AWS_SECRET_KEY"]),
    (⟨"storage", "public_base_url"⟩, ["BLOCKPROVER_S3_PUBLIC_URL"]),
    (⟨"programs", "prover_hash"⟩, ["BLOCKPROVER_PROVER_HASH", "PROVER_HASH"]),
    (⟨"programs", "verifier_hash"⟩, ["BLOCKPROVER_VERIFIER_HASH", "VERIFIER_HASH"])]

/-- The variables of settings that are numbers. -/
def numberVariables : List (SettingKey × String) :=
  [(⟨"poll", "interval_seconds"⟩, "BLOCKPROVER_POLL_INTERVAL"),
    (⟨"poll", "backoff_factor"⟩, "BLOCKPROVER_POLL_BACKOFF"),
    (⟨"poll", "max_interval_seconds"⟩, "BLOCKPROVER_POLL_MAX_INTERVAL"),
    (⟨"poll", "max_wait_seconds"⟩, "BLOCKPROVER_POLL_MAX_WAIT")]

/-- The variable of what a malformed verification does. -/
def haltVariable : String := "BLOCKPROVER_HALT_ON_MALFORMED"

/-- The variable of the block that a run starts with. -/
def startVariable : String := "BLOCKPROVER_START_BLOCK"

end ProofRelay
