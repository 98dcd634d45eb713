import ProofRelay.World.Basic

/-!
# Activities

What a run does: a step from a world to a world that gives a result, ends with a fault, or
reaches the bound on its rounds.

## Main definitions

* `Activity` : the activities.
* `Activity.fail` : the end with a fault.
* `log`, `callTool`, `sendFile`, `askHead`, `pause`, `print`, `complain`, `draw` : the single
  steps.
-/

namespace ProofRelay

/-- Why an activity ended without a result. -/
inductive Interruption where
  /-- A fault. -/
  | fault (f : Fault)
  /-- The bound on its rounds was reached. -/
  | endless

/-- A step from a world to a world. -/
abbrev Activity (α : Type) := ExceptT Interruption (StateM World) α

namespace Activity

/-- The end with a fault. -/
def fail {α : Type} (f : Fault) : Activity α :=
  throw (.fault f)

/-- The end at the bound on rounds. -/
def endless {α : Type} : Activity α :=
  throw .endless

/-- A result, or the end with a fault. -/
def ofExcept {α : Type} : Except Fault α → Activity α
  | .ok a => pure a
  | .error f => fail f

/-- An activity whose faults are answered by another one. -/
def onFault {α : Type} (a : Activity α) (handle : Fault → Activity α) : Activity α :=
  tryCatch a fun
    | .fault f => handle f
    | .endless => endless

/-- An activity with its fault as a result. -/
def attempt {α : Type} (a : Activity α) : Activity (Except Fault α) :=
  onFault (Except.ok <$> a) fun f => pure (.error f)

end Activity

open Activity

/-- An entry in the journal. -/
def note (e : Event) : Activity Unit :=
  modify (·.note e)

/-- A log line. -/
def log (level : Level) (source message : String) : Activity Unit :=
  note (.log level source message)

/-- A log line of a normal step. -/
def logInfo (source message : String) : Activity Unit :=
  log .info source message

/-- A log line for the search for mistakes. -/
def logDebug (source message : String) : Activity Unit :=
  log .debug source message

/-- A log line of something to look at. -/
def logWarning (source message : String) : Activity Unit :=
  log .warning source message

/-- A line for the operator. -/
def print (text : String) : Activity Unit :=
  note (.out (text ++ "\n"))

/-- A line for the operator about a problem. -/
def complain (text : String) : Activity Unit :=
  note (.err (text ++ "\n"))

/-- Lines of a drawing for the operator. -/
def draw (lines : List String) : Activity Unit :=
  note (.drawn (String.join (lines.map (· ++ "\n"))))

/-- The time. -/
def now : Activity Float :=
  return (← get).clock

/-- A change of the files that may end with a fault; what was changed before it stays. -/
def changeFiles (change : FileTree → FileTree × Option Fault) : Activity Unit := do
  let w ← get
  let (files, fault) := change w.files
  set { w with files := files }
  match fault with
  | none => return ()
  | some f => fail f

/-- What is at a path, if anything. -/
def entryAt (p : Path) : Activity (Option Entry) := do
  ofExcept ((← get).files.probe p)

/-- Whether a path leads to a file. -/
def isFileAt (p : Path) : Activity Bool := do
  match ← entryAt p with
  | some e => return !e.isDirectory
  | none => return false

/-- Whether there is a request to stop. -/
def stopRequested : Activity Bool :=
  return (← get).stopDue

/-- A delay of some seconds that a request to stop cuts short; whether it did. -/
def pause (seconds : Float) : Activity Bool := do
  let w ← get
  let p := Pause.under w.stop w.clock seconds
  match p.slept with
  | none => return p.cut
  | some time =>
    set { w.note (.slept time) with clock := p.ends }
    return p.cut

/-- The signal to end: it is logged, and the request to stop is raised. -/
def receiveSignal : Activity Unit := do
  logWarning "run_cmd" "signal 15 received, stopping after current poll"
  modify (·.raiseStop)

/-- A call of a tool: it is noted, and then takes its time, writes its files and raises its
requests before it ends. -/
def callTool (c : ToolCall) : Activity ToolEnding := do
  let w ← get
  let reply := w.tools.reply w.calls w.files c
  note (.call c)
  modify fun w =>
    { w with
      clock := w.clock + reply.delay
      files := reply.writes.foldl (fun t e => t.put e.1 e.2) w.files }
  if reply.raisesStop then modify (·.raiseStop)
  if reply.sendsSignal then receiveSignal
  return reply.ending

/-- The log lines of the storage client itself, when it sends a file. -/
def logClient (settings : ClientSettings) (u : Upload) : Activity Unit := do
  (((← get).clientLines settings u).map ClientLine.entry).forM note

/-- A file sent to the object storage, with a client that is made when there is none. -/
def sendFile (settings : ClientSettings) (u : Upload) : Activity UploadReply := do
  unless (← get).hasClient do note (.client settings)
  logClient settings u
  let w ← get
  let reply := w.storage w.uploads u
  note (.upload u)
  return reply

/-- The question for the head of the chain. -/
def askHead : Activity HeadReply := do
  let w ← get
  let reply := w.chain w.headReads
  note .head
  return reply

end ProofRelay
