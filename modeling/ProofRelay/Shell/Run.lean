import ProofRelay.Shell.Builtins
import ProofRelay.Shell.Expression

/-!
# Running scripts

The commands of a script are run one after another.  What a command runs in turn is given as an
engine, so that every command is one step over it; the depth of commands is bounded.

## Main definitions

* `Engine` : the means to run further commands.
* `Engine.step` : one command.
* `engine` : the engine for a bounded depth.
* `runProgram` : a program, which may be the shell itself.
-/

namespace ProofRelay.Shell

open ProofRelay.Text

/-- The means to run further commands. -/
structure Engine where
  /-- A command. -/
  run : Command → Action Unit
  /-- A script in the state of the command. -/
  script : List Char → Action Unit

namespace Engine

variable (e : Engine)

/-- What a script prints. -/
def printedBy (script : List Char) : Action (List UInt8) :=
  printed (e.script script)

/-! ### Redirections -/

/-- The report of a file that cannot be written or read. -/
def cannot (verb path : String) (problem : FileProblem) : String :=
  let text := match problem with
    | .absent | .notDirectory => if verb = "create" then "Directory nonexistent" else "No such file"
    | p => p.text
  "cannot " ++ verb ++ " " ++ path ++ ": " ++ text

/-- A channel that leads to a sink. -/
def lead (channel : Nat) (sink : Sink) : Action Unit :=
  modify fun s => { s with sinks := (channel, sink) :: s.sinks }

/-- A channel that writes a file. -/
def writeTo (channel : Nat) (path : String) (anew : Bool) : Action (Option String) := do
  let s ← get
  if path = "/dev/null" then
    lead channel .nowhere
    return none
  else if path = "/dev/stdout" then
    lead channel (s.sinkOf 1)
    return none
  else if path = "/dev/stderr" then
    lead channel (s.sinkOf 2)
    return none
  else if path.isEmpty then return some (cannot "create" path .absent)
  else
    match s.files.locate (.ofString path) with
    | .error p => return some (cannot "create" path p)
    | .ok l =>
      match s.files.find? l with
      | some (.directory _) => return some (cannot "create" path .isDirectory)
      | some (.file old mode) => do
        if anew && s.has 'C' then return some (cannot "create" path .exists)
        let bytes := if anew then [] else old
        modify fun s => { s with files := s.files.put l (.file bytes mode) }
        lead channel (.file l)
        return none
      | none => do
        modify fun s => { s with files := s.files.put l (.file [] FileTree.fileMode) }
        lead channel (.file l)
        return none

/-- One redirection; the report of one that fails. -/
def redirect (r : Redirect) : Action (Option String) := do
  let target ← valueOf e.printedBy r.target
  match r.kind with
  | .write => writeTo r.channel target true
  | .append => writeTo r.channel target false
  | .duplicate =>
    if target = "-" then
      lead r.channel .nowhere
      return none
    else
      match target.toNat? with
      | some n => do
        let s ← get
        if n ≠ 0 then lead r.channel (s.sinkOf n)
        return none
      | none => return some "Bad fd number"
  | .here => do
    modify fun s => { s with input := Utf8.ofString target }
    return none
  | .read =>
    if target = "/dev/null" then
      modify fun s => { s with input := [] }
      return none
    else
      match (← get).files.statusOfText target with
      | .ok (.file bytes _) => do
        modify fun s => { s with input := bytes }
        return none
      | .ok (.directory _) => do
        modify fun s => { s with input := [] }
        return none
      | .error p => return some (cannot "open" target p)

/-- Redirections one after another, up to the first one that fails. -/
def redirectAll : List Redirect → Action (Option String)
  | [] => return none
  | r :: rs => do
    match ← e.redirect r with
    | none => redirectAll rs
    | some text => return some text

/-- A step with redirections, which end with it.  A redirection that fails is reported, and ends
the script when asked to. -/
def under (rs : List Redirect) (ends : Bool) (a : Action Unit) : Action Unit := do
  if rs.isEmpty then a
  else
    let before ← get
    let reads := rs.any fun r => r.kind = .read ∨ r.kind = .here
    let back := modify fun s =>
      { s with sinks := before.sinks, input := if reads then before.input else s.input }
    match ← e.redirectAll rs with
    | some text =>
      back
      report text
      if ends then leaveWith 2 else setStatus 2
    | none =>
      tryCatch (do a; back) fun l => do
        back
        throw l

/-! ### Processes -/

/-- A step in a process of its own, which sees the exported variables only. -/
def asProcess (name : String) (arguments : List String) (a : Action Unit) : Action Unit := do
  let before ← get
  modify fun s =>
    { s with
      name := name, arguments := arguments, store := s.store.filter (·.exported)
      kept := [], functions := [], traps := [], loops := 0, line := 1, process := s.process + 1
      isInFunction := false, options := [], optionPlace := 0, isTested := false }
  let back := modify fun s =>
    { before with files := { s.files with here := before.files.here }, buffers := s.buffers
                  status := s.status, input := s.input }
  tryCatch (do a; back) fun
    | .killed n => do
      back
      setStatus (128 + n)
      match signalText? n with
      | some text => sayError (text ++ "\n")
      | none => pure ()
    | .endless => throw .endless
    | _ => back

/-- The script of a shell that is called with words: a text, a file, or what is left to read. -/
def shellScript (name : String) (words : List String) : Action (List Char) := do
  modify fun s => { s with line := 0 }
  let r ← readOptions "" true (words.length + 1) words false
  modify fun s => { s with line := 1 }
  if r.fromText then text r.rest
  else if r.rest.isEmpty then
    let s ← get
    set { s with input := [] }
    return (textOf s.input).toList
  else file r.rest
where
  /-- A script that is given as a text, with its name and arguments. -/
  text : List String → Action (List Char)
    | [] => do
      modify fun s => { s with line := 0 }
      failWith 2 "-c requires an argument"
    | script :: rest => do
      modify fun s => { s with name := rest.headD name, arguments := rest.drop 1 }
      return script.toList
  /-- A script in a file, with its arguments. -/
  file : List String → Action (List Char)
    | [] => return []
    | path :: rest => do
      match (← get).files.statusOfText path with
      | .ok (.file bytes _) =>
        modify fun s => { s with name := path, arguments := rest }
        return (textOf bytes).toList
      | _ => do
        modify fun s => { s with line := 0 }
        failWith 2 ("cannot open " ++ path ++ ": No such file")

/-- A script after which the one that is set for the end is run. -/
def toEnd (a : Action Unit) : Action Unit := do
  let atEnd : Action Unit := do
    let s ← get
    match s.traps.find? fun t => t.1 = 0 with
    | some t => do
      e.script t.2.toList
      setStatus s.status
    | none => return
  tryCatch a fun
    | .killed n => throw (.killed n)
    | .endless => throw .endless
    | _ => return
  atEnd

/-- A command that sends a signal, which may be answered by a script that is set for it. -/
def kill (words : List String) : Action Unit :=
  tryCatch (killCommand words) fun
    | .killed n => do
      match (← get).traps.find? fun t => t.1 = n && n ≠ 9 with
      | some t => e.script t.2.toList
      | none => throw (.killed n)
    | l => throw l

/-- The search path of a shell to which none is given. -/
def usualSearchPath : String :=
  "/usr/local/sbin:/usr/local/bin:/usr/sbin:/usr/bin:/sbin:/bin"

/-- The shell as a program. -/
def shell (arguments : List String) : Action Unit := do
  let name := arguments.headD "sh"
  modify fun s => { s with name := name }
  assignBy "" true "PWD" (FileTree.pathOf (← get).files.here).toString
  if ((← get).valueOf? "PATH").isNone then assign "PATH" usualSearchPath
  let script ← shellScript name (arguments.drop 1)
  modify fun s => { s with line := 1 }
  e.toEnd (e.script script)

/-- The options of the program that runs another one in an environment, and the words behind
them. -/
def environmentOptions : List String → Action (List String)
  | "-i" :: words => do
    modify fun s => { s with store := [] }
    environmentOptions words
  | "-u" :: name :: words => do
    modify fun s => { s with store := s.store.filter fun v => v.name ≠ name }
    environmentOptions words
  | words => return words

/-- The program that runs another one with more variables, given the start of that one. -/
def environmentProgram (start : List String → Action Unit) (words : List String) :
    Action Unit := do
  let words ← environmentOptions words
  let assignments := words.takeWhile fun w => w.toList.contains '='
  assignments.forM fun w => do
    let (name, value) := nameAndValue w
    assignBy "" true name (value.getD "")
  match words.drop assignments.length with
  | [] => withStatus environmentLines
  | command :: rest => do
    if ((← get).valueOf? "PATH").isNone then assign "PATH" "/bin:/usr/bin"
    let s ← get
    let paths := candidates ((s.valueOf? "PATH").getD "") command
    let short := areShort (command :: rest) s.exported
    match loadFirst s.files short (command :: rest) paths none with
    | .ok _ | .error .notRunnable => start (command :: rest)
    | .error problem => do
      sayError (s.name ++ ": '" ++ command ++ "': " ++ problem.text ++ "\n")
      setStatus (if problem = .absent then 127 else 126)

/-- The program that runs another one which keeps on when the operator leaves. -/
def nohupProgram (start : List String → Action Unit) (words : List String) : Action Unit := do
  if words.isEmpty then
    let _ ← misuse "missing operand"
    setStatus 125
  else start words

/-- The whole seconds that a word states. -/
def secondsOf (word : String) : Nat :=
  (String.ofList (word.toList.takeWhile Char.isDigit)).toNat?.getD 0

/-- The program that runs another one for some time; only one that waits takes any. -/
def timeoutProgram (start : List String → Action Unit) (words : List String) : Action Unit := do
  match words with
  | time :: command :: rest =>
    if !isInterval time then
      let _ ← misuse ("invalid time interval " ++ marked time)
      setStatus 125
    else if command = "sleep" && 0 < secondsOf time &&
        secondsOf time < (rest.map secondsOf).foldl (· + ·) 0 then setStatus 124
    else start (command :: rest)
  | _ => do
    sayError ("Try '" ++ (← get).name ++ " --help' for more information.\n")
    setStatus 125

/-- The program that runs another one for words that it reads. -/
def xargsProgram (start : List String → Action Unit) (words : List String) : Action Unit := do
  let (options, command) := match words with
    | "-n" :: count :: rest => (some count, rest)
    | w :: rest =>
      match w.toList with
      | '-' :: 'n' :: count => (some (String.ofList count), rest)
      | _ => (none, words)
    | [] => (none, [])
  let s ← get
  let isBlank := fun (c : Char) => isSpace c || c == '\n'
  let read := ((textOf s.input).toList.splitBy fun a b => isBlank a == isBlank b).filterMap
    fun w => if w.any isBlank then none else some (String.ofList w)
  set { s with input := [] }
  let command := if command.isEmpty then ["echo"] else command
  let size := max ((options.bind (·.toNat?)).getD read.length) 1
  let batches := (List.range (max ((read.length + size - 1) / size) 1)).map fun k =>
    (read.drop (k * size)).take size
  let status ← batches.foldlM (fun (n : Nat) batch => do
    start (command ++ batch)
    let status := (← get).status
    return if status = 0 then n else if 126 ≤ status then status else 123) 0
  setStatus status

/-- A program with its arguments, given the start of a further one by its words. -/
def runLoaded (start : List String → Action Unit) (p : LoadedProgram) : Action Unit := do
  modify fun s => { s with name := p.arguments.headD "" }
  if shellNames.contains p.program then e.shell p.arguments
  else if p.program = "env" then environmentProgram start (p.arguments.drop 1)
  else if p.program = "nohup" then nohupProgram start (p.arguments.drop 1)
  else if p.program = "timeout" then timeoutProgram start (p.arguments.drop 1)
  else if p.program = "xargs" then xargsProgram start (p.arguments.drop 1)
  else if p.program = "kill" then killCommand (p.arguments.drop 1)
  else if p.program = "[" then bracketCommand (p.arguments.drop 1)
  else if p.program = "expr" then withStatus (expressionProgram (p.arguments.drop 1))
  else
    match utility? p.program <|> filter? p.program with
    | some u => withStatus (u (p.arguments.drop 1))
    | none => setStatus 0

/-- The words for a command that cannot be started, and the status. -/
def notStarted (command : String) (problem : FileProblem) : Action Unit := do
  match problem with
  | .absent | .notDirectory =>
    report (command ++ ": not found")
    setStatus 127
  | p =>
    report (command ++ ": " ++ p.text)
    setStatus 126

/-- A program that is started by its name, with a mark before the name in reports; the count bounds
the programs that start others. -/
def start (mark : String) : Nat → List String → Action Unit
  | 0, _ => throw .endless
  | _, [] => return
  | n + 1, command :: words => do
    let s ← get
    let paths := (s.valueOf? "PATH").elim [] fun search => candidates search command
    let paths := if command.toList.contains '/' then [command] else paths
    let short := areShort (command :: words) s.exported
    match loadFirst s.files short (command :: words) paths none with
    | .ok p => asProcess command words (e.runLoaded (start "" n) p)
    | .error .notRunnable => do
      match paths.findSome? fun path => (s.files.statusOfText path).toOption.map (path, ·) with
      | some (path, .file bytes _) =>
        asProcess path words (e.script (textOf bytes).toList)
      | _ => notStarted (mark ++ command) .absent
    | .error p => notStarted (mark ++ command) p

/-- How many programs may start one another. -/
def programDepth : Nat := 1000

/-! ### Simple commands -/

/-- Assignments one after another. -/
def assignAll (exported : Bool) (as : List (String × Word)) : Action Unit :=
  as.forM fun a => do
    let v ← valueOf e.printedBy a.2
    assignBy "" exported a.1 v

/-- A command that the script defined, with arguments of its own. -/
def callFunction (body : Command) (words : List String) : Action Unit := do
  let before ← get
  modify fun s => { s with arguments := words, kept := [], isInFunction := true }
  let back := modify fun s =>
    { s with arguments := before.arguments, store := restored s.kept s.store, kept := before.kept
             isInFunction := before.isInFunction }
  tryCatch (do e.run body; back) fun
    | .returned => back
    | l => throw l

/-- The words of a command run as a command. -/
def invoke (name : String) (words : List String) : Action Unit := do
  match (← get).functions.find? fun f => f.1 = name with
  | some f => e.callFunction f.2 words
  | none =>
    match name with
    | "eval" => do
      setStatus 0
      e.script (" ".intercalate words).toList
    | "exec" =>
      if words.isEmpty then return
      else do
        e.start "exec: " programDepth words
        throw .exit
    | "kill" => e.kill words
    | "type" => tellMeanings true words
    | "command" =>
      match words with
      | [] => return
      | "-v" :: names => tellMeanings false (names.take 1)
      | "-V" :: names => tellMeanings true (names.take 1)
      | w :: ws =>
        match builtin? w with
        | some b => b ws
        | none => e.start "" programDepth (w :: ws)
    | "." =>
      match words with
      | [] => return
      | path :: _ => do
        match (← get).files.statusOfText path with
        | .ok (.file bytes _) => e.script (textOf bytes).toList
        | _ => failWith 2 (".: cannot open " ++ path ++ ": No such file")
    | _ =>
      match builtin? name with
      | some b => b words
      | none => e.start "" programDepth (name :: words)

/-- The line that shows assignments and words before they take effect, if it is asked for, on the
channels that there were before redirections. -/
def trace (sinks : List (Nat × Sink)) (as : List (String × Word)) (words : List String) :
    Action Unit := do
  let s ← get
  if s.has 'x' then
    let given := as.map fun a => a.1 ++ "=" ++ (s.valueOf? a.1).getD ""
    set { s with sinks := sinks }
    sayError ((s.valueOf? "PS4").getD "+ " ++ " ".intercalate (given ++ words) ++ "\n")
    modify fun t => { t with sinks := s.sinks }

/-- A step whose variables are given values before it and get back their old ones after it. -/
def withAssignments (as : List (String × Word)) (kept : Bool) (a : Action Unit) :
    Action Unit := do
  if as.isEmpty then a
  else if kept then
    e.assignAll false as
    a
  else
    let before := (← get).store
    e.assignAll true as
    let back := modify fun s => { s with store := before }
    tryCatch (do a; back) fun l => do
      back
      throw l

/-- A command of assignments, words and redirections. -/
def simple (line : Nat) (as : List (String × Word)) (words : List Word) (rs : List Redirect) :
    Action Unit := do
  modify fun s => { s with line := line }
  let fields ← fieldsOf e.printedBy words
  let sinks := (← get).sinks
  match fields with
  | [] =>
    if words.isEmpty then setStatus 0
    e.under rs false do
      e.assignAll false as
      if !as.isEmpty then trace sinks as []
  | ["exec"] =>
    trace sinks [] fields
    match ← e.redirectAll rs with
    | none => setStatus 0
    | some text => failWith 2 text
  | name :: args =>
    e.under rs (isSpecialCommand name)
      (e.withAssignments as (isSpecialCommand name) do
        trace sinks as fields
        e.invoke name args)

/-! ### Structures -/

/-- A step whose status is looked at, so that a failure in it does not end the script. -/
def tested (a : Action Unit) : Action Unit := do
  let before := (← get).isTested
  modify fun s => { s with isTested := true }
  tryCatch (do a; modify fun s => { s with isTested := before }) fun l => do
    modify fun s => { s with isTested := before }
    throw l

/-- The end of the script if it stops at failures and there was one. -/
def stopAtFailure : Action Unit := do
  let s ← get
  if s.has 'e' && !s.isTested && s.status ≠ 0 then throw .exit

/-- The body of a repetition: whether the repetition goes on. -/
def body (c : Command) : Action Bool := do
  modify fun s => { s with loops := s.loops + 1 }
  let back := modify fun s => { s with loops := s.loops - 1 }
  tryCatch (do e.run c; back; return true) fun
    | .loop depth goesOn => do
      back
      if depth ≤ 1 then return goesOn else throw (.loop (depth - 1) goesOn)
    | l => do
      back
      throw l

/-- Repetition as long as a condition has the wanted outcome.  The status at the end is the one of
the last repetition; the count bounds the repetitions. -/
def loop (untilSuccess : Bool) (condition c : Command) : Nat → Nat → Action Unit
  | 0, _ => throw .endless
  | n + 1, status => do
    tested (e.run condition)
    if ((← get).status == 0) != untilSuccess then
      if ← e.body c then loop untilSuccess condition c n (← get).status
    else setStatus status

/-- How often a repetition may take place. -/
def loopLimit : Nat := 1000000

/-- Repetition for values. -/
def eachOf (name : String) (c : Command) : List String → Action Unit
  | [] => return
  | v :: vs => do
    assign name v
    if ← e.body c then eachOf name c vs else return

/-- The first arm with a pattern that fits. -/
def firstArm (value : String) : List (List Word × Command) → Action (Option Command)
  | [] => return none
  | (patterns, c) :: arms => do
    let fitting ← patterns.anyM fun w => do
      return fits (← patternOfWord e.printedBy w) value.toList
    if fitting then return some c else firstArm value arms

/-- Commands of which each reads what the one before it prints. -/
def pipe : List Command → Action Unit
  | [] => return
  | [c] => isolated (e.run c)
  | c :: cs => do
    let bytes ← printed (e.run c)
    let before := (← get).input
    modify fun s => { s with input := bytes }
    pipe cs
    modify fun s => { s with input := before }

/-- One command. -/
def step : Command → Action Unit
  | .nothing => return
  | .simple line as words rs => do
    e.simple line as words rs
    stopAtFailure
  | .pipeline cs => do
    e.pipe cs
    stopAtFailure
  | .negated c => do
    tested (e.run c)
    modify fun s => { s with status := if s.status = 0 then 1 else 0 }
  | .sequence a b => do
    e.run a
    e.run b
  | .both a b => do
    tested (e.run a)
    if (← get).status = 0 then e.run b
  | .either a b => do
    tested (e.run a)
    if (← get).status ≠ 0 then e.run b
  | .background c => do
    isolated (e.run c)
    setStatus 0
  | .choice condition yes no => do
    tested (e.run condition)
    if (← get).status = 0 then e.run yes
    else do
      setStatus 0
      e.run no
  | .loop untilSuccess condition c => e.loop untilSuccess condition c loopLimit 0
  | .each name words c => do
    let values ← match words with
      | some ws => fieldsOf e.printedBy ws
      | none => do pure (← get).arguments
    setStatus 0
    e.eachOf name c values
  | .select w arms => do
    let value ← valueOf e.printedBy w
    match ← e.firstArm value arms with
    | some c => do
      setStatus 0
      e.run c
    | none => setStatus 0
  | .isolated c => do
    isolated (e.run c)
    stopAtFailure
  | .redirected c rs => e.under rs false (e.run c)
  | .define name c =>
    modify fun s =>
      { s with functions := (name, c) :: s.functions.filter (·.1 ≠ name), status := 0 }

/-- The lines of a script one after another; the count bounds their number.  A mistake ends the
script where it is. -/
def lines (lastLine : Nat) : Nat → Tokens → Action Unit
  | 0, _ => return
  | n + 1, ts =>
    match nextLine ts with
    | .ok none => return
    | .ok (some (c, rest)) => do
      e.run c
      lines lastLine n rest
    | .error m => do
      modify fun s => { s with line := m.line.getD lastLine }
      failWith 2 ("Syntax error: " ++ m.report)

/-- A script in the state of the command. -/
def source (script : List Char) : Action Unit :=
  let ts := tokens script
  e.lines (script.count '\n' + 1) (ts.length + 1) ts

end Engine

/-- The engine for a bounded depth of commands. -/
def engine : Nat → Engine
  | 0 => ⟨fun _ => throw .endless, fun _ => throw .endless⟩
  | n + 1 =>
    ⟨fun c => do unless (← get).has 'n' do (engine n).step c, (engine n).source⟩

end ProofRelay.Shell
