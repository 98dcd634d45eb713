import ProofRelay.Files.Tree
import ProofRelay.Job.Basic
import ProofRelay.Json.Equality
import ProofRelay.Poll.Stop

/-!
# The world of a run

Everything outside this library that a run works with: files, what the system knows and denies, a
clock, the external tools, the object storage and its client, the chain, a request to stop, and a
journal of all that was done.  The tools and services answer as functions of what was asked of them
before, so that a run is a function from worlds to worlds.

## Main definitions

* `World` : the state of everything outside.
* `Event` : an entry of the journal.
* `Host`, `Denials` : what the system knows, and to what it denies access.
* `ToolReply`, `UploadReply`, `HeadReply` : what tools, storage and chain may do.
* `ClientLine` : what the storage client writes to the log.
* `World.calls`, `World.uploads`, `World.headReads` : what was asked of them.
-/

namespace ProofRelay

/-! ### Tools -/

/-- A call of an external tool.  Its parts come from settings and may be values of any kind; a
program can be started with texts only. -/
structure ToolCall where
  /-- The program. -/
  command : Json
  /-- Its arguments. -/
  arguments : List Json
  /-- The variables added to its environment. -/
  environment : Option Json.Fields
  deriving DecidableEq, Repr

/-- The program and its arguments. -/
def ToolCall.line (c : ToolCall) : List Json :=
  c.command :: c.arguments

/-- How a call ends. -/
inductive ToolEnding where
  /-- There is nothing to call. -/
  | unknown
  /-- The program could not be started. -/
  | notStarted (reason : String)
  /-- The program ended with a status and said something on its two channels. -/
  | exited (status : Int) (out err : String)
  /-- The call or its output is not text. -/
  | garbled (fault : Fault)

/-- What a call does. -/
structure ToolReply where
  /-- The time that it takes. -/
  delay : Float
  /-- The files that it writes. -/
  writes : List (Location × Entry)
  /-- Whether it raises the request to stop. -/
  raisesStop : Bool
  /-- Whether it sends the signal to end. -/
  sendsSignal : Bool
  /-- How it ends. -/
  ending : ToolEnding

/-- The tools: what a call does after the calls before it, in a tree of files. -/
structure Tools where
  /-- The answer to a call, given the earlier calls with the latest first. -/
  reply : List ToolCall → FileTree → ToolCall → ToolReply
  /-- Whether the start and the end of every call is logged. -/
  logged : Bool

/-! ### Object storage and chain -/

/-- The settings that a storage client is made with. -/
structure ClientSettings where
  /-- The region. -/
  region : Json
  /-- The name of the credentials. -/
  accessKey : Json
  /-- The secret of the credentials. -/
  secretKey : Json
  /-- The address of the service. -/
  endpoint : Json
  deriving DecidableEq, Repr

/-- A file sent to the object storage. -/
structure Upload where
  /-- The path of the file. -/
  file : String
  /-- The bucket. -/
  bucket : Json
  /-- The name of the object. -/
  key : String
  /-- Who may read the object. -/
  access : Json
  deriving DecidableEq, Repr

/-- What the object storage answers. -/
inductive UploadReply where
  /-- The object is there. -/
  | stored
  /-- The object was refused, or the storage could not be reached. -/
  | refused (reason : String)
  /-- Something else went wrong. -/
  | broken (fault : Fault)

/-- What the chain answers when asked for its head. -/
inductive HeadReply where
  /-- A value, which should be a number. -/
  | value (v : Json)
  /-- The chain could not be reached or refused to answer. -/
  | refused (reason : String)
  /-- Something else went wrong. -/
  | broken (fault : Fault)

/-! ### The system -/

/-- What the system says where the environment is silent. -/
structure Host where
  /-- The home of the account, if it is a known one. -/
  home : Option String
  /-- The directories of the system's programs. -/
  searchPath : String

/-- The paths to which access is denied.  The system itself answers everyone the same, but a
rehearsal may deny a path to one of the two that ask. -/
structure Denials where
  /-- When a check of the setup asks. -/
  checks : List String
  /-- When the search for a program asks. -/
  search : List String

/-! ### The journal -/

/-- How important a log line is. -/
inductive Level where
  /-- Of interest when searching for a mistake. -/
  | debug
  /-- A normal step. -/
  | info
  /-- Something to look at. -/
  | warning
  /-- A failure. -/
  | error
  deriving DecidableEq, Repr

/-- The word for a level. -/
def Level.name : Level → String
  | .debug => "DEBUG"
  | .info => "INFO"
  | .warning => "WARNING"
  | .error => "ERROR"

/-- A line that the storage client writes to the log by itself. -/
structure ClientLine where
  /-- How important it is. -/
  level : Level
  /-- The part of the client that writes it. -/
  source : String
  /-- What it says. -/
  message : String

/-- An entry of the journal. -/
inductive Event where
  /-- A log line and the part of the program that wrote it. -/
  | log (level : Level) (source message : String)
  /-- A tool was called. -/
  | call (c : ToolCall)
  /-- A storage client was made. -/
  | client (s : ClientSettings)
  /-- A file was sent to the object storage. -/
  | upload (u : Upload)
  /-- The chain was asked for its head. -/
  | head
  /-- A connection to the chain was prepared. -/
  | provider (url : Json) (timeout : Float)
  /-- Time passed without work. -/
  | slept (seconds : Float)
  /-- A text for the operator. -/
  | out (text : String)
  /-- A drawing for the operator. -/
  | drawn (text : String)
  /-- A text for the operator about a problem. -/
  | err (text : String)
  /-- A job was started for a block. -/
  | started (block : Int)
  deriving Repr

/-! ### The world -/

/-- The value of a variable among the variables of an environment. -/
def valueIn? (environment : List (String × String)) (name : String) : Option String :=
  (environment.find? fun p => p.1 = name).map (·.2)

/-- The entry of the journal for a line of the storage client. -/
def ClientLine.entry (l : ClientLine) : Event :=
  .log l.level l.source l.message

/-- The state of everything outside. -/
structure World where
  /-- The files. -/
  files : FileTree
  /-- The variables of the environment. -/
  environment : List (String × String)
  /-- What the system knows. -/
  host : Host
  /-- The paths to which access is denied. -/
  denied : Denials
  /-- The time, in seconds. -/
  clock : Float
  /-- The request to stop, if the run takes one. -/
  stop : Option StopRequest
  /-- The tools. -/
  tools : Tools
  /-- The object storage: its answer to an upload after the earlier ones, the latest first. -/
  storage : List Upload → Upload → UploadReply
  /-- The storage client: what it writes to the log when it sends a file. -/
  clientLines : ClientSettings → Upload → List ClientLine
  /-- The chain: its answer after a number of earlier questions. -/
  chain : Nat → HeadReply
  /-- The job that was started last. -/
  job : Option Job
  /-- What was done, the latest entry first. -/
  journal : List Event

namespace World

/-- The calls of tools, the latest first. -/
def calls (w : World) : List ToolCall :=
  w.journal.filterMap fun
    | .call c => some c
    | _ => none

/-- The uploads, the latest first. -/
def uploads (w : World) : List Upload :=
  w.journal.filterMap fun
    | .upload u => some u
    | _ => none

/-- The count of questions for the head of the chain. -/
def headReads (w : World) : Nat :=
  w.journal.countP fun
    | .head => true
    | _ => false

/-- Whether a storage client was made. -/
def hasClient (w : World) : Bool :=
  w.journal.any fun
    | .client _ => true
    | _ => false

/-- A world with one more entry in its journal. -/
def note (w : World) (e : Event) : World :=
  { w with journal := e :: w.journal }

/-- Whether there is a request to stop. -/
def stopDue (w : World) : Bool :=
  w.stop.any (·.isDue w.clock)

/-- A world in which the request to stop is raised, if the run takes one. -/
def raiseStop (w : World) : World :=
  { w with stop := w.stop.map (·.raise) }

/-- The value of a variable of the environment. -/
def valueOf? (w : World) (name : String) : Option String :=
  valueIn? w.environment name

end World

end ProofRelay
