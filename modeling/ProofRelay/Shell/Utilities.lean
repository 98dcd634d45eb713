import ProofRelay.Shell.Condition
import ProofRelay.Shell.Programs

/-!
# Utilities

The programs of the system that work on files and arguments.  A problem is reported behind the name
of the program, with the path put into words.

## Main definitions

* `Utility` : a program that runs no other one.
* `utility?` : what a program of a name does.
-/

namespace ProofRelay.Shell

open ProofRelay.Text

/-- A program: it is given its arguments and ends with a status. -/
abbrev Utility := List String → Action Nat

/-! ### Problems -/

/-- A text between marks. -/
def marked (text : String) : String :=
  "'" ++ text ++ "'"

/-- The report of a problem of a program. -/
def complain (text : String) : Action Nat := do
  sayError ((← get).name ++ ": " ++ text ++ "\n")
  return 1

/-- The report of the problem with a path that is put into words. -/
def problemAt (words : String) (problem : FileProblem) : Action Nat :=
  complain (words ++ ": " ++ problem.text)

/-- The report of a mistake in the arguments, with the advice where to find help. -/
def misuse (text : String) : Action Nat := do
  let name := (← get).name
  complain (text ++ "\nTry '" ++ name ++ " --help' for more information.")

/-! ### Output -/

/-- The output of arguments with blanks between them. -/
def echoWith (escapes lineEnd : Bool) (words : List String) : Action Nat := do
  let text := (" ".intercalate words).toList
  let (bytes, ended) := if escapes then escapedText text else (Utf8.encode text, false)
  sayBytes 1 (bytes ++ if lineEnd && !ended then [10] else [])
  return 0

/-- The program that shows its arguments, with the options in front of them. -/
def echoProgram (escapes lineEnd : Bool) : Utility
  | [] => echoWith escapes lineEnd []
  | w :: ws =>
    let letters := w.toList.drop 1
    if w.toList.head? = some '-' && !letters.isEmpty && letters.all "neE".toList.contains then
      let escapes := letters.foldl (fun b c => if c == 'e' then true else if c == 'E' then false
        else b) escapes
      echoProgram escapes (lineEnd && !letters.contains 'n') ws
    else echoWith escapes lineEnd (w :: ws)

/-- The program that shows a format with arguments. -/
def printfUtility (usage : Action Unit) (complain : NoNumber → Action Unit)
    (stopped : FormatProblem → Action Nat) : Utility
  | [] => do
    usage
    return 2
  | "--" :: format :: ws => show_ format ws
  | format :: ws => show_ format ws
where
  /-- The output of a format with arguments. -/
  show_ (format : String) (ws : List String) : Action Nat := do
    let p := formatted format ws
    sayBytes 1 p.bytes
    p.wrong.forM complain
    match p.problem with
    | some problem => stopped problem
    | none => return if p.wrong.isEmpty then 0 else 1

/-- The program that shows files; without one it shows what is left to read. -/
def catUtility : Utility := fun paths => do
  let one := fun (path : String) => do
    if path = "-" then
      let s ← get
      set { s with input := [] }
      sayBytes 1 s.input
      return 0
    else if path = "/dev/null" then return 0
    else
      match (← get).files.statusOfText path with
      | .ok (.file bytes _) =>
        sayBytes 1 bytes
        return 0
      | .ok (.directory _) => problemAt path .isDirectory
      | .error e => problemAt path e
  (if paths.isEmpty then ["-"] else paths).foldlM (fun n p => return max n (← one p)) 0

/-- The variables of the environment, a line for each. -/
def environmentLines : Action Nat := do
  (← get).environment.forM fun p => say (p.1 ++ "=" ++ p.2 ++ "\n")
  return 0

/-- The program that shows variables of the environment. -/
def printenvUtility : Utility
  | [] => environmentLines
  | names => do
    let environment := (← get).environment
    names.foldlM (fun (n : Nat) name => do
      match environment.find? fun p => p.1 = name with
      | some p => do
        say (p.2 ++ "\n")
        return n
      | none => return 1) 0

/-- The program that counts. -/
def seqUtility : Utility := fun words => do
  match words.map fun w => (w, w.toInt?) with
  | [] => misuse "missing operand"
  | [(_, some last)] => count 1 1 last
  | [(_, some first), (_, some last)] => count first 1 last
  | [(_, some first), (_, some step), (_, some last)] => count first step last
  | numbers =>
    match numbers.find? fun w => w.2.isNone with
    | some w => misuse ("invalid floating point argument: " ++ marked w.1)
    | none => misuse ("extra operand " ++ marked ((words.drop 3).headD ""))
where
  /-- The numbers from one to another. -/
  count (first step last : Int) : Action Nat := do
    let count := if step = 0 then 0 else ((last - first).fdiv step + 1).toNat
    (List.range count).forM fun (k : Nat) => say (toString (first + step * k) ++ "\n")
    return 0

/-! ### Files -/

/-- A change of the files that may be refused; the refusal is reported in words. -/
def tryFiles (words : String) (change : FileTree → Except FileProblem FileTree) :
    Action Nat := do
  let s ← get
  match change s.files with
  | .ok t =>
    set { s with files := t }
    return 0
  | .error e => problemAt words e

/-- The arguments that are no options. -/
def pathsOf (words : List String) : List String :=
  words.filter fun w => w.toList.head? ≠ some '-' || w = "-"

/-- The letters of the options. -/
def lettersIn (words : List String) : List Char :=
  (words.filter fun w => w.toList.head? = some '-').flatMap fun w => w.toList.drop 1

/-- An action for every argument that is no option, of which there has to be one; the status is the
highest one. -/
def forPaths (lacking : String) (words : List String) (one : String → Action Nat) : Action Nat :=
  if (pathsOf words).isEmpty then misuse lacking
  else (pathsOf words).foldlM (fun n p => return max n (← one p)) 0

/-- The program that makes directories. -/
def mkdirUtility : Utility := fun words =>
  forPaths "missing operand" words fun path =>
    let p := Path.ofString path
    let words_ := fun (p : String) => "cannot create directory " ++ marked p
    if (lettersIn words).contains 'p' then do
      let files := (← get).files
      let barrier := (p.parents.reverse ++ [p]).find? fun q => files.isFile q
      tryFiles (words_ ((barrier.getD p).toString)) fun t =>
        match t.makeDirectories p with
        | (t, none) => .ok t
        | (_, some (.file f)) => .error f.problem
        | (_, some _) => .error .absent
    else tryFiles (words_ path) (·.makeDirectory p)

/-- The program that removes empty directories. -/
def rmdirUtility : Utility := fun words =>
  forPaths "missing operand" words fun path => do
    let failed := fun (text : String) =>
      complain ("failed to remove " ++ marked path ++ ": " ++ text)
    let s ← get
    match s.files.statusOfText path, s.files.locate (.ofString path) with
    | .ok (.directory _), .ok l =>
      if s.files.entries.any fun e => e.1.length = l.length + 1 && l.isPrefixOf e.1 then
        failed "Directory not empty"
      else
        set { s with files := s.files.erase l }
        return 0
    | .ok (.file ..), _ => failed FileProblem.notDirectory.text
    | .error e, _ => failed e.text
    | _, .error e => failed e.text

/-- The program that makes empty files. -/
def touchUtility : Utility := fun words =>
  forPaths "missing file operand" words fun path =>
    tryFiles ("cannot touch " ++ marked path) fun t =>
      match t.locate (.ofString path) with
      | .error e => .error e
      | .ok l => .ok (if (t.find? l).isSome then t else t.put l (.file [] FileTree.fileMode))

/-- The program that removes files. -/
def rmUtility : Utility := fun words => do
  let letters := lettersIn words
  let whole := letters.contains 'r' || letters.contains 'R'
  let quiet := letters.contains 'f'
  if quiet && (pathsOf words).isEmpty then return 0
  forPaths "missing operand" words fun path => do
    let refuse := problemAt ("cannot remove " ++ marked path)
    let s ← get
    match s.files.locate (.ofString path) with
    | .error e => if quiet then return 0 else refuse e
    | .ok l =>
      match s.files.find? l with
      | none => if quiet then return 0 else refuse .absent
      | some (.directory _) =>
        if whole then
          set { s with files := s.files.eraseAll l }
          return 0
        else refuse .isDirectory
      | some (.file ..) =>
        set { s with files := s.files.erase l }
        return 0

/-- A tree with a copy of all entries below a location at another one. -/
def copied (t : FileTree) (l m : Location) : FileTree :=
  (t.entries.filter fun e => l.isPrefixOf e.1).foldl
    (fun t e => t.put (m ++ e.1.drop l.length) e.2) t

/-- The place at which something that is put at a path arrives: below the path if it is a
directory. -/
def arrival (t : FileTree) (name target : String) : Except FileProblem Location :=
  let p := Path.ofString target
  t.locate (if t.isDirectory p then p.join name else p)

/-- One entry put at a path, with all that is below it if it is a directory.  What is moved is no
longer at its old place. -/
def putAt (moved whole : Bool) (source target : String) : Action Nat := do
  let s ← get
  match s.files.statusOfText source, s.files.locate (.ofString source) with
  | .error e, _ => problemAt ("cannot stat " ++ marked source) e
  | _, .error e => problemAt ("cannot stat " ++ marked source) e
  | .ok entry, .ok l =>
    if entry.isDirectory && !whole then
      complain ("-r not specified; omitting directory " ++ marked source)
    else
      let verb := if moved then "cannot move " ++ marked source ++ " to "
        else "cannot create " ++ (if entry.isDirectory then "directory " else "regular file ")
      let barrier := entry.isDirectory && s.files.isFile (.ofString target)
      if barrier then complain ("cannot overwrite non-directory " ++ marked target ++
        " with directory " ++ marked source)
      else tryFiles (verb ++ marked target) fun t => do
        let m ← arrival t (Path.ofString source).name target
        let new := if entry.isDirectory then copied t l m else t.put m entry
        return if moved && l ≠ m then new.eraseAll l else new

/-- The programs that copy or move entries: to a path, or several of them into a directory. -/
def transferUtility (moved : Bool) : Utility := fun words => do
  let whole := moved || ['r', 'R', 'a'].any (lettersIn words).contains
  match (pathsOf words).reverse with
  | [] => misuse "missing file operand"
  | [source] => misuse ("missing destination file operand after " ++ marked source)
  | [target, source] => putAt moved whole source target
  | target :: sources =>
    if (← get).files.isDirectory (.ofString target) then
      sources.reverse.foldlM (fun n p => return max n (← putAt moved whole p target)) 0
    else complain ("target " ++ marked target ++ ": " ++
      match (← get).files.statusOfText target with
      | .error e => e.text
      | .ok _ => FileProblem.notDirectory.text)

/-- The permission bits that a word asks for: octal digits, or the bits to run a file. -/
def wantedMode (word : String) (old : Nat) : Nat :=
  if !word.isEmpty && word.toList.all (·.isDigit) then
    word.toList.foldl (fun n c => 8 * n + (c.toNat - 48)) 0
  else if word.toList.contains 'x' then
    if word.toList.contains '-' then old &&& 0o666 else old ||| 0o111
  else old

/-- The program that changes the permission bits of files. -/
def chmodUtility : Utility
  | [] => misuse "missing operand"
  | [mode] => misuse ("missing operand after " ++ marked mode)
  | mode :: paths =>
    paths.foldlM (fun n path => do
      let m ← tryFiles ("cannot access " ++ marked path) fun t => do
        match ← t.statusOfText path, ← t.locate (.ofString path) with
        | .file bytes old, l => return t.put l (.file bytes (wantedMode mode old))
        | .directory old, l => return t.put l (.directory (wantedMode mode old))
      return max n m) 0

/-- The names in a directory in their order; hidden ones only if they are asked for. -/
def shownNames (t : FileTree) (l : Location) (hidden : Bool) : List String :=
  let names := t.entries.filterMap fun e =>
    if e.1.length = l.length + 1 && l.isPrefixOf e.1 then e.1.getLast? else none
  (names.filter fun s => hidden || s.toList.head? ≠ some '.').mergeSort fun a b => a ≤ b

/-- The program that shows the names in directories; files come before them. -/
def lsUtility : Utility := fun words => do
  let letters := lettersIn words
  let t := (← get).files
  let paths := if (pathsOf words).isEmpty then ["."] else (pathsOf words).mergeSort fun a b => a ≤ b
  let found := paths.map fun p => (p, t.statusOfText p)
  let status ← found.foldlM (fun n p => do
    match p.2 with
    | .ok _ => return n
    | .error e => do
      let _ ← complain ("cannot access " ++ marked p.1 ++ ": " ++ e.text)
      return 2) 0
  let isListed := fun (p : String × Except FileProblem Entry) =>
    match p.2 with
    | .ok e => e.isDirectory && !letters.contains 'd'
    | .error _ => false
  let files := found.filter fun p => p.2.toOption.isSome && !isListed p
  files.forM fun p => say (p.1 ++ "\n")
  (found.filter isListed).zipIdx.forM fun (p, k) => do
    if 0 < k || !files.isEmpty then say "\n"
    if 1 < paths.length then say (p.1 ++ ":\n")
    if letters.contains 'a' then say ".\n..\n"
    let hidden := letters.contains 'a' || letters.contains 'A'
    let names := match t.locate (.ofString p.1) with
      | .ok l => shownNames t l hidden
      | .error _ => []
    names.forM fun s => say (s ++ "\n")
  return status

/-! ### Arguments -/

/-- The program that shows the last name of a path, without an ending. -/
def basenameUtility : Utility
  | [] => misuse "missing operand"
  | path :: words => do
    let p := (Path.ofString path).name
    let ending := words.headD ""
    let cut := ending.length < p.length && ending.toList.isSuffixOf p.toList
    say ((if cut then String.ofList (p.toList.take (p.length - ending.length)) else p) ++ "\n")
    return 0

/-- The program that shows paths without their last names. -/
def dirnameUtility : Utility := fun words =>
  forPaths "missing operand" words fun path => do
    say ((Path.ofString path).parent.toString ++ "\n")
    return 0

/-- Whether a word is a time to wait: a number with a unit behind it. -/
def isInterval (word : String) : Bool :=
  let digits := word.toList.takeWhile fun c => c.isDigit || c == '.'
  let unit := word.toList.drop digits.length
  digits.any Char.isDigit && (unit.isEmpty || ["s", "m", "h", "d"].contains (String.ofList unit))

/-- The program that waits, which takes no time here. -/
def sleepUtility : Utility
  | [] => misuse "missing operand"
  | words =>
    match words.find? fun w => !isInterval w with
    | some w => misuse ("invalid time interval " ++ marked w)
    | none => return 0

/-- The program that names the user, who is the owner of everything. -/
def idUtility : Utility := fun words => do
  let letters := lettersIn words
  say (if letters.isEmpty then "uid=0(root) gid=0(root) groups=0(root)\n"
    else if letters.contains 'n' then "root\n" else "0\n")
  return 0

/-- The program that shows where programs are. -/
def whichUtility : Utility := fun names => do
  let s ← get
  let search := (s.valueOf? "PATH").getD ""
  names.foldlM (fun (n : Nat) name => do
    match (candidates search name).find? fun p => s.files.isRunnable (.ofString p) with
    | some p => do
      say (p ++ "\n")
      return n
    | none => return 1) (if names.isEmpty then 1 else 0)

/-! ### All utilities -/

/-- What a program does that runs no other one. -/
def utility? (name : String) : Option Utility :=
  match name with
  | "true" => some fun _ => return 0
  | "false" => some fun _ => return 1
  | "sleep" => some sleepUtility
  | "echo" => some (echoProgram false true)
  | "printf" => some (printfUtility (sayError "printf: missing operand\n")
    (fun w => sayError ("printf: " ++ marked w.argument ++ ": " ++ (if w.startsWithNumber then
      "value not completely converted" else "expected a numeric value") ++ "\n"))
    (fun problem => complain ((match problem with
      | .unknown letter => "%" ++ String.singleton letter
      | .incomplete text => text) ++ ": invalid conversion specification")))
  | "cat" => some catUtility
  | "printenv" => some printenvUtility
  | "mkdir" => some mkdirUtility
  | "rmdir" => some rmdirUtility
  | "touch" => some touchUtility
  | "rm" => some rmUtility
  | "cp" => some (transferUtility false)
  | "mv" => some (transferUtility true)
  | "seq" => some seqUtility
  | "chmod" => some chmodUtility
  | "ls" => some lsUtility
  | "pwd" => some fun _ => do
    say ((FileTree.pathOf (← get).files.here).toString ++ "\n")
    return 0
  | "basename" => some basenameUtility
  | "dirname" => some dirnameUtility
  | "id" => some idUtility
  | "whoami" => some fun _ => do
    say "root\n"
    return 0
  | "uname" => some fun _ => do
    say "Linux\n"
    return 0
  | "which" => some whichUtility
  | "test" => some fun words => do
    match holds (← get).files words with
    | .ok v => return if v then 0 else 1
    | .error text =>
      sayError ("test: " ++ text ++ "\n")
      return 2
  | _ => none

end ProofRelay.Shell
