import ProofRelay.Settings.Basic
import ProofRelay.Witness.Checksum
import ProofRelay.World.Activity

/-!
# Capturing witnesses

A witness is a file that an external program writes for a block.  Its checksum is the one that
the network's tool computes, which is also the one that the sandbox compares.

## Main definitions

* `witnessFileName` : the name of a block's witness.
* `runTool` : a call of a tool that has to succeed.
* `captureCall`, `checksumCall` : the calls for a block's witness.
* `captureWitness` : the file of a new witness.
* `witnessChecksum` : the checksum of a witness.
-/

namespace ProofRelay

open ProofRelay.Text Activity

/-! ### Tools -/

/-- What a tool said. -/
structure ToolOutput where
  /-- On its normal channel. -/
  out : String
  /-- On its channel for problems. -/
  err : String
  deriving DecidableEq, Repr

/-- The arguments of a call, texts between quotation marks. -/
def quotedLine (c : ToolCall) : String :=
  (Json.arr c.line).spelled

/-- A log line about a call, if the start and the end of calls are logged. -/
def logCall (logged : Bool) (message : String) : Activity Unit :=
  if logged then logDebug "runner" message else return ()

/-- What a tool said that ended in some way: a tool that could not be started or ended with
another status than zero is a fault with the whole call. -/
def concludeCall (c : ToolCall) (logged : Bool) : ToolEnding → Activity ToolOutput
  | .unknown => fail (.stage (.ofTool c.line "no scripted response" none "" ""))
  | .notStarted reason =>
    fail (.stage (.ofTool c.line ("could not launch " ++ c.command.shown ++ ": " ++ reason) none
      "" ""))
  | .garbled f => fail f
  | .exited status out err => do
    logCall logged ("exit " ++ toString status ++ " from " ++ c.command.shown)
    if status = 0 then return ⟨out, err⟩
    else
      fail (.stage (.ofTool c.line
        (c.command.shown ++ " exited with status " ++ toString status) (some status) out err))

/-- A call of a tool that has to succeed. -/
def runTool (c : ToolCall) : Activity ToolOutput := do
  let logged := (← get).tools.logged
  logCall logged ("exec: " ++ quotedLine c)
  let ending ← callTool c
  concludeCall c logged ending

/-! ### Witnesses -/

/-- The name of a block's witness; there are no negative blocks. -/
def witnessFileName (block : Int) : Except Fault String :=
  if block < 0 then
    .error (.value ("block number must be non-negative, got " ++ toString block))
  else .ok ("witness-" ++ toString block ++ ".json")

/-- The path of a block's witness. -/
def witnessPath (s : Settings) (block : Int) : Except Fault Path := do
  let root ← s.witnessRoot
  let name ← witnessFileName block
  return root.join name

/-- The arguments of the capture program. -/
def captureArguments (block : Int) (parameters url : Json) (p : Path) : List Json :=
  [.str "witness_capture", .str "-b", .str (toString block), .str "-k", parameters, .str "-r", url,
    .str "-w", .str p.toString]

/-- The call of the capture program. -/
def captureCall (s : Settings) (block : Int) (parameters url : Json) (p : Path) : ToolCall :=
  ⟨s.proverCommand, captureArguments block parameters url p, none⟩

/-- The file of a new witness, written by the capture program. -/
def captureWitness (s : Settings) (block : Int) : Activity Path := do
  match s.parametersPath.given?, s.captureUrl.given? with
  | none, _ => fail (.setting "witness.params_path is not configured (PARAMS_PATH)")
  | some _, none =>
    fail (.setting "no data source URL configured for witness capture (KATLA_ENDPOINT)")
  | some parameters, some url => do
    let p ← ofExcept (witnessPath s block)
    changeFiles (·.makeDirectories p.parent)
    let call := captureCall s block parameters url p
    logInfo "witness" ("capturing witness for block " ++ toString block)
    let said ← runTool call
    if ← isFileAt p then return p
    else
      fail (.stage (.ofTool call.line
        ("capture finished but " ++ p.toString ++ " was not written") (some 0) said.out said.err))

/-- A call of the network's tool. -/
def networkCall (s : Settings) (arguments : List String) (environment : Option Json.Fields) :
    ToolCall :=
  ⟨s.networkCommand, .str "--jsonurl" :: s.networkUrl :: arguments.map .str, environment⟩

/-- The call that hashes a file. -/
def checksumCall (s : Settings) (p : Path) : ToolCall :=
  networkCall s ["calculate-hash", "--file", p.toString] none

/-- The checksum of a witness, from the network's tool. -/
def witnessChecksum (s : Settings) (block : Int) : Activity String := do
  let p ← ofExcept (witnessPath s block)
  let said ← runTool (checksumCall s p)
  let checksum ← ofExcept (Checksum.read said.out)
  logInfo "witness" ("witness checksum for block " ++ toString block ++ ": " ++ checksum)
  return checksum

end ProofRelay
