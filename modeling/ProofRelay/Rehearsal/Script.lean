import ProofRelay.World.Basic

/-!
# Scripted tools and services

For a rehearsal the tools, the object storage and the chain follow scripts: each has a queue of
replies, of which the last one is repeated when the queue runs out.  The tools have a queue for
each sub-command, which is the first argument of a call that names one.

## Main definitions

* `nth?` : the reply of a queue to a call.
* `ToolScript` : the queues of the tools.
* `ToolScript.tools` : the tools that follow a script.
-/

namespace ProofRelay.Rehearsal

open ProofRelay

/-- The reply of a queue after a number of earlier calls; the last one is repeated. -/
def nth? {α : Type} (queue : List α) (earlier : Nat) : Option α :=
  queue[min earlier (queue.length - 1)]?

/-- What a scripted call does. -/
structure ScriptedReply where
  /-- The time that it takes. -/
  delay : Float
  /-- The text that it writes to the file named after `-w`. -/
  writes : Option String
  /-- Whether it raises the request to stop. -/
  raisesStop : Bool
  /-- Whether it sends the signal to end. -/
  sendsSignal : Bool
  /-- How it ends. -/
  ending : ToolEnding

/-- The queue of a sub-command, and the count of its calls before the queue was put up. -/
structure ToolQueue where
  /-- The sub-command. -/
  name : String
  /-- The calls before. -/
  skipped : Nat
  /-- The replies. -/
  replies : List ScriptedReply

/-- The queues of the tools. -/
abbrev ToolScript := List ToolQueue

/-- The sub-commands that have a queue. -/
def subcommands : List String :=
  ["witness_capture", "calculate-hash", "exec", "print-tx-tree", "get-tx-execution-output"]

/-- The sub-command of a call. -/
def subcommand? (c : ToolCall) : Option String :=
  c.arguments.findSome? fun
    | .str s => if subcommands.contains s then some s else none
    | _ => none

/-- The count of calls of a sub-command. -/
def countCalls (calls : List ToolCall) (name : String) : Nat :=
  calls.countP fun c => subcommand? c == some name

/-- The argument that follows a flag. -/
def argumentAfter? (flag : String) : List Json → Option Json
  | a :: b :: rest => if a = .str flag then some b else argumentAfter? flag (b :: rest)
  | _ => none

/-- The files that a scripted call writes; what is at the place may be in the way. -/
def scriptedWrites (files : FileTree) (c : ToolCall) (text : Option String) :
    Except Fault (List (Location × Entry)) :=
  match text, (argumentAfter? "-w" c.arguments).bind Json.text? with
  | some text, some target =>
    let p := Path.ofString target
    let bytes := Text.Utf8.ofString text
    match files.writeFile p bytes, files.locate p with
    | .error f, _ => .error f
    | .ok _, .ok l => .ok [(l, .file bytes FileTree.fileMode)]
    | .ok _, .error _ => .ok []
  | _, _ => .ok []

/-- The reply to a call that no queue answers. -/
def noReply : ToolReply :=
  ⟨0, [], false, false, .unknown⟩

namespace ToolScript

/-- The scripted reply to a call after the earlier ones. -/
def replyTo? (s : ToolScript) (earlier : List ToolCall) (c : ToolCall) :
    Option ScriptedReply := do
  let name ← subcommand? c
  let queue ← s.find? fun q => q.name = name
  nth? queue.replies (countCalls earlier name - queue.skipped)

/-- The tools that follow a script. -/
def tools (s : ToolScript) : Tools where
  reply := fun earlier files c =>
    match s.replyTo? earlier c with
    | none => noReply
    | some r =>
      match scriptedWrites files c r.writes with
      | .ok writes => ⟨r.delay, writes, r.raisesStop, r.sendsSignal, r.ending⟩
      | .error f => ⟨r.delay, [], false, false, .garbled f⟩
  logged := false

/-- A script with a queue put up for a sub-command. -/
def replace (s : ToolScript) (q : ToolQueue) : ToolScript :=
  q :: s.filter fun p => p.name ≠ q.name

end ToolScript

/-- The object storage that follows a queue put up after a number of uploads. -/
def storageOf (queue : List UploadReply) (skipped : Nat) : List Upload → Upload → UploadReply :=
  fun earlier _ => (nth? queue (earlier.length - skipped)).getD .stored

/-- The chain that follows a queue put up after a number of questions. -/
def chainOf (queue : List HeadReply) (skipped : Nat) : Nat → HeadReply :=
  fun earlier => (nth? queue (earlier - skipped)).getD (.value (.int 0))

end ProofRelay.Rehearsal
