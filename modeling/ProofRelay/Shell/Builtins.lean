import ProofRelay.Shell.Expansion
import ProofRelay.Shell.Grammar
import ProofRelay.Shell.Utilities

/-!
# Commands of the shell itself

The commands that change the state of a script and are therefore no programs.

## Main definitions

* `builtin?` : what a command of the shell does that runs no other command.
-/

namespace ProofRelay.Shell

open ProofRelay.Text

/-- A command of the shell that ends with a status. -/
def withStatus (a : Action Nat) : Action Unit := do
  setStatus (← a)

/-- The report of a problem of a command of the shell. -/
def reportOf (command text : String) : Action Unit :=
  report (command ++ ": " ++ text)

/-- A number among the arguments of a command; another word ends the script. -/
def argumentNumber (command : String) : List String → Nat → Action Nat
  | [], usual => return usual
  | w :: _, _ =>
    match w.toList.all (·.isDigit), w.toNat? with
    | true, some n => return n
    | _, _ => failWith 2 (command ++ ": Illegal number: " ++ w)

/-! ### Signals -/

/-- The names of signals with their numbers. -/
def signalNames : List (String × Nat) :=
  [("HUP", 1), ("INT", 2), ("QUIT", 3), ("ILL", 4), ("TRAP", 5), ("ABRT", 6), ("BUS", 7),
    ("FPE", 8), ("KILL", 9), ("USR1", 10), ("SEGV", 11), ("USR2", 12), ("PIPE", 13),
    ("ALRM", 14), ("TERM", 15), ("CHLD", 17), ("CONT", 18), ("URG", 23), ("WINCH", 28)]

/-- The signals that a process does not notice. -/
def unnoticedSignals : List Nat := [0, 17, 18, 23, 28]

/-- The number of a signal. -/
def signalOf? (s : String) : Option Nat :=
  match s.toNat? with
  | some n => some n
  | none => (signalNames.find? fun p => p.1 = s ∨ "SIG" ++ p.1 = s).map (·.2)

/-- The command that sends a signal; only the script itself can be reached. -/
def killCommand (words : List String) : Action Unit := do
  let (signal, targets) := match words with
    | "-s" :: name :: rest => (signalOf? name, rest)
    | w :: rest =>
      match w.toList with
      | '-' :: name => (signalOf? (String.ofList name), rest)
      | _ => (some 15, words)
    | [] => (some 15, [])
  match signal, targets, targets.find? fun t => t.toInt?.isNone with
  | none, _, _ =>
    let word := (words.headD "").toList
    reportOf "kill" (match word with
      | ['-', 's'] => "invalid signal number or name: " ++ (words.drop 1).headD ""
      | _ => "Illegal option -" ++ String.ofList ((word.drop 1).take 1))
    setStatus 2
  | some _, [], _ =>
    reportOf "kill" ("Usage: kill [-s sigspec | -signum | -sigspec] [pid | job]... or\n" ++
      "kill -l [exitstatus]")
    setStatus 2
  | some _, _, some target =>
    reportOf "kill" ("Illegal number: " ++ target)
    setStatus 2
  | some n, _, none =>
    if targets.contains (processNumber (← get)) && !unnoticedSignals.contains n then
      throw (.killed n)
    else setStatus (if targets.contains (processNumber (← get)) then 0 else 1)

/-- The number of a signal, or zero for the end of the script. -/
def trapNumber? (s : String) : Option Nat :=
  if s = "EXIT" then some 0 else signalOf? s

/-- The command that sets what is run when a signal arrives. -/
def trapCommand : List String → Action Unit
  | [] => setStatus 0
  | script :: names => do
    let numbers := names.filterMap trapNumber?
    modify fun s =>
      let others := s.traps.filter fun t => !numbers.contains t.1
      let own := if script = "-" then [] else numbers.map fun n => (n, script)
      { s with traps := own ++ others, status := 0 }

/-- The words for the end of a program by a signal; some ends are not mentioned. -/
def signalText? (signal : Nat) : Option String :=
  match signal with
  | 1 => some "Hangup"
  | 3 => some "Quit"
  | 4 => some "Illegal instruction"
  | 5 => some "Trace/breakpoint trap"
  | 6 => some "Aborted"
  | 7 => some "Bus error"
  | 8 => some "Floating point exception"
  | 9 => some "Killed"
  | 10 => some "User defined signal 1"
  | 11 => some "Segmentation fault"
  | 12 => some "User defined signal 2"
  | 14 => some "Alarm clock"
  | 15 => some "Terminated"
  | _ => none

/-! ### State -/

/-- The command that changes the directory. -/
def cdCommand (words : List String) : Action Unit := do
  let s ← get
  let words := words.filter fun w => w ≠ "-P" && w ≠ "-L" && w ≠ "--"
  let here := (FileTree.pathOf s.files.here).toString
  let back := words.head? = some "-"
  let target := if back then (s.valueOf? "OLDPWD").getD here
    else words.head?.getD ((s.valueOf? "HOME").getD "")
  let target := if target.isEmpty then here else target
  match s.files.locate (.ofString target), s.files.statusOfText target with
  | .ok l, .ok (.directory _) =>
    set { s with files := { s.files with here := l } }
    assignBy "cd: " true "OLDPWD" here
    assignBy "cd: " true "PWD" (FileTree.pathOf l).toString
    if back then say ((FileTree.pathOf l).toString ++ "\n")
    setStatus 0
  | _, _ =>
    report ("cd: can't cd to " ++ target)
    setStatus 2

/-- An option that is set or no longer set. -/
def setOption (on : Bool) (letter : Char) : Action Unit :=
  modify fun s =>
    let others := s.options.filter (· ≠ letter)
    { s with options := if on then letter :: others else others }

/-- Words with the options in front of them read. -/
structure OptionsRead where
  /-- The words behind the options. -/
  rest : List String
  /-- Whether a mark ended the options. -/
  isClosed : Bool
  /-- Whether a script is given as a text. -/
  fromText : Bool

/-- The options that letters name, some of which need a word of their own, and the words that are
left; a letter that is no option ends the script. -/
def readLetters (command : String) (starting on : Bool) :
    List Char → List String → Bool → Action (List String × Bool)
  | [], words, fromText => return (words, fromText)
  | 'o' :: letters, words, fromText => do
    match words with
    | [] => readLetters command starting on letters [] fromText
    | name :: words => do
      match optionNames.find? fun p => p.2 = name with
      | some p => setOption on p.1
      | none => failWith 2 (command ++ "Illegal option " ++ (if on then "-o " else "+o ") ++ name)
      readLetters command starting on letters words fromText
  | c :: letters, words, fromText => do
    if c = 'c' && starting then readLetters command starting on letters words true
    else if optionNames.any fun p => p.1 = c then
      setOption on c
      readLetters command starting on letters words fromText
    else
      failWith 2 (command ++ "Illegal option " ++ (if on then "-" else "+") ++ String.singleton c)

/-- The options in front of words; the count bounds their number. -/
def readOptions (command : String) (starting : Bool) :
    Nat → List String → Bool → Action OptionsRead
  | 0, words, fromText => return ⟨words, false, fromText⟩
  | _, [], fromText => return ⟨[], false, fromText⟩
  | n + 1, w :: words, fromText => do
    if w = "--" then return ⟨words, true, fromText⟩
    else if w = "-" then
      unless starting do
        setOption false 'x'
        setOption false 'v'
      return ⟨words, false, fromText⟩
    else
      match w.toList with
      | '-' :: letters => do
        let (words, fromText) ← readLetters command starting true letters words fromText
        readOptions command starting n words fromText
      | '+' :: letters => do
        let (words, fromText) ← readLetters command starting false letters words fromText
        readOptions command starting n words fromText
      | _ => return ⟨w :: words, false, fromText⟩

/-- A text between single quotes, as a script would write it. -/
def inQuotes (text : String) : String :=
  "'" ++ joined "'\"'\"'" (cutAt '\'' text) ++ "'"

/-- The variables of some kind in their order, a line for each. -/
def showVariables (lead : String) (isMeant : Variable → Bool) : Action Unit := do
  let meant := ((← get).store.filter isMeant).mergeSort fun a b => a.name ≤ b.name
  meant.forM fun v => say (lead ++ v.name ++ "=" ++ inQuotes v.value ++ "\n")
  setStatus 0

/-- The command that sets options and arguments. -/
def setCommand (words : List String) : Action Unit := do
  if words.isEmpty then showVariables "" fun _ => true
  else
    let r ← readOptions "set: " false (words.length + 1) words false
    if r.isClosed || !r.rest.isEmpty then modify fun s => { s with arguments := r.rest }
    setStatus 0

/-- A name and the value behind an equals sign. -/
def nameAndValue (w : String) : String × Option String :=
  let s := w.toList
  let name := String.ofList (s.takeWhile (· ≠ '='))
  match s.dropWhile (· ≠ '=') with
  | [] => (name, none)
  | _ :: v => (name, some (String.ofList v))

/-- A command on variables, which are given with or without values; without one, the variables of
its kind are shown. -/
def variableCommand (command : String) (isMeant : Variable → Bool)
    (one : String → Option String → Action Unit) (words : List String) : Action Unit := do
  let words := words.filter (· ≠ "-p")
  if words.isEmpty then showVariables (command ++ " ") isMeant
  else
    words.forM fun w => do
      let (name, value) := nameAndValue w
      if isName name.toList then one name value
      else failWith 2 (command ++ ": " ++ name ++ ": bad variable name")
    setStatus 0

/-- The command that shows variables to programs. -/
def exportCommand : List String → Action Unit :=
  variableCommand "export" (·.exported) fun name value =>
    match value with
    | some v => assignBy "export: " true name v
    | none => expose name

/-- The command after which variables keep their values. -/
def readonlyCommand : List String → Action Unit :=
  variableCommand "readonly" (·.isFixed) fun name value => do
    match value, (← get).valueOf? name with
    | some v, _ => assignBy "readonly: " false name v
    | none, none => assign name ""
    | none, some _ => pure ()
    modify fun s =>
      { s with
        store := s.store.map fun v => if v.name = name then { v with isFixed := true } else v }

/-- The command that makes variables a function's own. -/
def localCommand (words : List String) : Action Unit := do
  if !(← get).isInFunction then failWith 2 "local: not in a function"
  words.forM fun w => do
    let (name, value) := nameAndValue w
    keep name
    match value with
    | some v => assignBy "local: " false name v
    | none => pure ()
  setStatus 0

/-- The command that forgets variables. -/
def unsetCommand (words : List String) : Action Unit := do
  let names := words.filter fun w => w ≠ "-v" && w ≠ "-f"
  if words.contains "-f" then
    modify fun s => { s with functions := s.functions.filter fun f => !names.contains f.1 }
  else
    names.forM fun name => do
      if !isName name.toList then failWith 2 ("unset: " ++ name ++ ": bad variable name")
      else if (← get).isFixed name then failWith 2 ("unset: " ++ name ++ ": is read only")
      else modify fun s => { s with store := s.store.filter fun v => v.name ≠ name }
  setStatus 0

/-- The command that drops arguments. -/
def shiftCommand (words : List String) : Action Unit := do
  let n ← argumentNumber "shift" words 1
  let s ← get
  if s.arguments.length < n then failWith 2 "shift: can't shift that many"
  else set { s with arguments := s.arguments.drop n, status := 0 }

/-- A line of what is left to read, without the marks that quote its characters. -/
def readLine (raw : Bool) : List Char → List Char
  | '\\' :: c :: s => if raw then '\\' :: readLine raw (c :: s) else c :: readLine raw s
  | c :: s => c :: readLine raw s
  | [] => []

/-- Values for names from a line: the last one takes all that is left. -/
def assignWords : List String → List Char → Action Unit
  | [], _ => return
  | [name], s => assign name (String.ofList (s.reverse.dropWhile isSpace).reverse)
  | name :: names, s => do
    let isBlank := fun c => isSpace c || c == '\n'
    assign name (String.ofList (s.takeWhile fun c => !isBlank c))
    assignWords names ((s.dropWhile fun c => !isBlank c).dropWhile isBlank)

/-- The command that reads a line. -/
def readCommand (words : List String) : Action Unit := do
  let s ← get
  let line := s.input.takeWhile (· ≠ 10)
  let ended := (s.input.dropWhile (· ≠ 10)).isEmpty
  set { s with input := (s.input.dropWhile (· ≠ 10)).drop 1 }
  let names := words.filter (· ≠ "-r")
  let text := readLine (words.contains "-r") (textOf line).toList
  match names.find? s.isFixed with
  | some name =>
    reportOf "read" (name ++ ": is read only")
    setStatus 2
  | none =>
    assignWords names (text.dropWhile isSpace)
    setStatus (if ended then 1 else 0)

/-! ### Options of a script -/

/-- What a look for the next option finds. -/
structure NextOption where
  /-- The name for it. -/
  name : String
  /-- The argument of the option. -/
  argument : Option String
  /-- The number of the word at which the next look starts. -/
  word : Nat
  /-- The place in that word. -/
  place : Nat
  /-- The words for a problem. -/
  problem : Option String
  /-- Whether there is an option. -/
  isThere : Bool

/-- The next option in words, from a place in one of them on.  A colon behind a letter asks for an
argument; one in front of all letters keeps problems from being put into words. -/
def nextOption (letters : List Char) (words : List String) (word place : Nat) : NextOption :=
  let quiet := letters.head? = some ':'
  let w := (words[word - 1]?.getD "").toList
  let place := max place 1
  let ends : Nat → NextOption := fun n => ⟨"?", none, n, 0, none, false⟩
  if place = 1 && (w.head? ≠ some '-' || w.length < 2) then ends word
  else if place = 1 && w = ['-', '-'] then ends (word + 1)
  else
    match w.drop place with
    | [] => ends word
    | c :: more =>
      let next := if more.isEmpty then (word + 1, 0) else (word, place + 1)
      let shown := String.singleton c
      match letters.dropWhile (· ≠ c) with
      | _ :: ':' :: _ =>
        if c = ':' then ⟨"?", some shown, next.1, next.2, none, true⟩
        else if !more.isEmpty then ⟨shown, some (String.ofList more), word + 1, 0, none, true⟩
        else
          match words[word]? with
          | some a => ⟨shown, some a, word + 2, 0, none, true⟩
          | none =>
            if quiet then ⟨":", some shown, word + 1, 0, none, true⟩
            else ⟨"?", none, word + 1, 0, some ("No arg for -" ++ shown ++ " option"), true⟩
      | _ :: _ => ⟨shown, some "", next.1, next.2, none, true⟩
      | [] =>
        if quiet then ⟨"?", some shown, next.1, next.2, none, true⟩
        else ⟨"?", none, next.1, next.2, some ("Illegal option -" ++ shown), true⟩

/-- The command that looks for the next option. -/
def getoptsCommand : List String → Action Unit
  | letters :: name :: words => do
    let s ← get
    let words := if words.isEmpty then s.arguments else words
    let word := ((s.valueOf? "OPTIND").bind (·.toNat?)).getD 1
    let o := nextOption letters.toList words word s.optionPlace
    match o.problem with
    | some text => sayError (text ++ "\n")
    | none => pure ()
    assign name o.name
    match o.argument with
    | some a => assign "OPTARG" a
    | none => modify fun s => { s with store := s.store.filter fun v => v.name ≠ "OPTARG" }
    assign "OPTIND" (toString o.word)
    modify fun s => { s with optionPlace := o.place }
    setStatus (if o.isThere then 0 else 1)
  | _ => do
    reportOf "getopts" "Usage: getopts optstring var [arg...]"
    setStatus 2

/-! ### Questions and repetitions -/

/-- The command that asks a question between brackets. -/
def bracketCommand (words : List String) : Action Unit := do
  if words.getLast? ≠ some "]" then
    reportOf "[" "missing ]"
    setStatus 2
  else
    match holds (← get).files words.dropLast with
    | .ok v => setStatus (if v then 0 else 1)
    | .error text => do
      reportOf "[" text
      setStatus 2

/-- The command that leaves repetitions; outside of them it does nothing. -/
def loopCommand (name : String) (goesOn : Bool) (words : List String) : Action Unit := do
  let n ← argumentNumber name words 1
  setStatus 0
  let loops := (← get).loops
  if loops ≠ 0 then throw (.loop (min n loops) goesOn)

/-- What a command of the shell does that runs no other command. -/
def builtin? (name : String) : Option (List String → Action Unit) :=
  match name with
  | ":" => some fun _ => setStatus 0
  | "true" => some fun _ => setStatus 0
  | "false" => some fun _ => setStatus 1
  | "echo" => some fun ws =>
    match ws with
    | "-n" :: ws => withStatus (echoWith true false ws)
    | ws => withStatus (echoWith true true ws)
  | "printf" => some fun ws =>
    withStatus (printfUtility (reportOf "printf" "usage: printf format [arg ...]")
      (fun w => reportOf "printf" (w.argument ++ if w.startsWithNumber then
        ": not completely converted" else ": expected numeric value"))
      (fun problem => do
        reportOf "printf" (match problem with
          | .unknown letter => "%" ++ String.singleton letter ++ ": invalid directive"
          | .incomplete _ => "missing format character")
        return 2) ws)
  | "test" => some fun ws => do
    match holds (← get).files ws with
    | .ok v => setStatus (if v then 0 else 1)
    | .error text => do
      reportOf "test" text
      setStatus 2
  | "[" => some bracketCommand
  | "pwd" => some fun _ => withStatus do
    say ((FileTree.pathOf (← get).files.here).toString ++ "\n")
    return 0
  | "cd" => some cdCommand
  | "exit" => some fun ws => do
    let n ← argumentNumber "exit" ws (← get).status
    leaveWith (n % 256)
  | "return" => some fun ws => do
    let n ← argumentNumber "return" ws (← get).status
    setStatus (n % 256)
    throw .returned
  | "break" => some (loopCommand "break" false)
  | "continue" => some (loopCommand "continue" true)
  | "kill" => some killCommand
  | "shift" => some shiftCommand
  | "set" => some setCommand
  | "export" => some exportCommand
  | "readonly" => some readonlyCommand
  | "local" => some localCommand
  | "unset" => some unsetCommand
  | "read" => some readCommand
  | "trap" => some trapCommand
  | "getopts" => some getoptsCommand
  | "umask" => some fun ws => withStatus do
    match ws with
    | [] => say "0022\n"
    | ["-S"] => say "u=rwx,g=rx,o=rx\n"
    | _ => pure ()
    return 0
  | "wait" => some fun _ => setStatus 0
  | "alias" => some fun _ => setStatus 0
  | "hash" => some fun _ => setStatus 0
  | "times" => some fun _ => withStatus do
    say "0m0.000000s 0m0.000000s\n0m0.000000s 0m0.000000s\n"
    return 0
  | "ulimit" => some fun _ => withStatus do
    say "unlimited\n"
    return 0
  | _ => none

/-- The commands whose problems end the script. -/
def isSpecialCommand (name : String) : Bool :=
  [":", ".", "break", "continue", "eval", "exec", "exit", "export", "local", "readonly", "return",
    "set", "shift", "times", "trap", "unset"].contains name

/-- The commands of the shell that run other ones. -/
def runningCommands : List String := [".", "command", "eval", "exec", "type"]

/-- What a name stands for where a command starts, in a word or in a sentence. -/
def meaningOf? (s : State) (name : String) : Option (String × String) :=
  let is_ := fun (what : String) => some (name, name ++ " is " ++ what)
  if keywords.contains name then is_ "a shell keyword"
  else if s.functions.any fun f => f.1 = name then is_ "a shell function"
  else if isSpecialCommand name then is_ "a special shell builtin"
  else if (builtin? name).isSome || runningCommands.contains name then is_ "a shell builtin"
  else if name.toList.contains '/' then
    if (s.files.statusOfText name).toOption.isSome then is_ name else none
  else
    let paths := candidates ((s.valueOf? "PATH").getD "") name
    (paths.find? fun p => s.files.isRunnable (.ofString p)).map fun p => (p, name ++ " is " ++ p)

/-- The command that says what names stand for; the status is 127 if one of them stands for
nothing. -/
def tellMeanings (inWords : Bool) (names : List String) : Action Unit := do
  let s ← get
  let status ← names.foldlM (fun (n : Nat) name => do
    match meaningOf? s name with
    | some m => do
      say ((if inWords then m.2 else m.1) ++ "\n")
      return n
    | none => do
      if inWords then say (name ++ ": not found\n")
      return 127) 0
  setStatus status

end ProofRelay.Shell
