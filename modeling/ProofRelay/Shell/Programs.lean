import ProofRelay.Shell.State
import ProofRelay.Shell.Tokens

/-!
# Programs of the system

The programs that a script finds on every system.  A program is known by the mark at the start
of its file, behind which its name stands.

## Main definitions

* `programFile` : the file of a program.
* `LoadedProgram`, `load` : the program that a file runs; a script names the program that reads
  it.
-/

namespace ProofRelay.Shell

open ProofRelay.Text

/-! ### Files of programs -/

/-- The mark at the start of a program's file. -/
def programMark : List UInt8 := [127, 69, 76, 70]

/-- The file of a program. -/
def programFile (name : String) : Entry :=
  .file (programMark ++ Utf8.ofString name) 0o755

/-- The names of the shell. -/
def shellNames : List String := ["sh", "dash", "bash"]

/-- The programs that work on files and arguments. -/
def utilityNames : List String :=
  ["basename", "cat", "chmod", "cp", "dirname", "echo", "env", "expr", "false", "id", "kill", "ls",
    "mkdir", "mv", "nohup", "printenv", "printf", "pwd", "rm", "rmdir", "seq", "sleep", "test",
    "timeout", "touch", "true", "uname", "which", "whoami", "xargs", "["]

/-- The programs that read text and print it in another form. -/
def filterNames : List String :=
  ["base64", "cut", "grep", "head", "rev", "sed", "sha256sum", "sort", "tac", "tail", "tee", "tr",
    "uniq", "wc"]

/-- The programs of which it is left open what they do; they end at once. -/
def openNames : List String :=
  ["awk", "cmp", "comm", "date", "dd", "df", "diff", "du", "find", "gzip", "hostname", "ln",
    "md5sum", "mktemp", "nice", "nl", "od", "paste", "readlink", "realpath", "sha1sum", "stat",
    "sync", "tar", "tty", "yes"]

/-- The programs of the system. -/
def programNames : List String :=
  shellNames ++ utilityNames ++ filterNames ++ openNames

/-- The locations of the programs of the system. -/
def programLocations : List (Location × Entry) :=
  programNames.flatMap fun name =>
    [(["usr", "bin", name], programFile name), (["bin", name], programFile name)]

/-- A program and its arguments, the first of which is its name. -/
structure LoadedProgram where
  /-- The program. -/
  program : String
  /-- The arguments. -/
  arguments : List String

/-- The interpreter and its argument in the first line of a script. -/
def interpreterLine (bytes : List UInt8) : Option (String × Option String) :=
  match bytes with
  | 35 :: 33 :: rest =>
    let line := (rest.takeWhile (· ≠ 10)).map fun b => Char.ofNat b.toNat
    let line := (line.reverse.dropWhile isSpace).reverse.dropWhile isSpace
    let name := line.takeWhile fun c => !isSpace c
    let argument := (line.dropWhile fun c => !isSpace c).dropWhile isSpace
    if name.isEmpty then none
    else
      some (String.ofList name,
        if argument.isEmpty then none else some (String.ofList argument))
  | _ => none

/-- The number of bytes that an argument or a variable of a program may not reach. -/
def argumentLimit : Nat := 131072

/-- Whether the arguments and variables of a program are short enough. -/
def areShort (arguments : List String) (environment : List (String × String)) : Bool :=
  arguments.all (fun s => s.utf8ByteSize < argumentLimit) &&
    environment.all fun p => p.1.utf8ByteSize + p.2.utf8ByteSize + 1 < argumentLimit

/-- The program that the file at a path runs with arguments, where `short` says whether they and
the variables are short enough; the count bounds how many scripts read one another. -/
def load (t : FileTree) (short : Bool) :
    Nat → String → List String → Except FileProblem LoadedProgram
  | 0, _, _ => .error .notRunnable
  | n + 1, path, arguments =>
    match t.statusOfText path with
    | .error e => .error e
    | .ok (.directory _) => .error .denied
    | .ok (.file bytes mode) =>
      if mode &&& 0o111 = 0 then .error .denied
      else if !short then .error .argumentTooLong
      else if programMark.isPrefixOf bytes then
        .ok ⟨textOf (bytes.drop programMark.length), arguments⟩
      else
        match interpreterLine bytes with
        | none => .error .notRunnable
        | some (interpreter, argument) =>
          load t short n interpreter
            ([interpreter] ++ argument.toList ++ [path] ++ arguments.drop 1)

/-- How many scripts may read one another. -/
def interpreterDepth : Nat := 5

/-- The paths at which a command is looked for. -/
def candidates (searchPath : String) (command : String) : List String :=
  if command.toList.contains '/' then [command]
  else
    (cutAt ':' searchPath).map fun directory =>
      if directory.isEmpty then command
      else if directory.toList.getLast? = some '/' then directory ++ command
      else directory ++ "/" ++ command

/-- The first program among paths.  If there is none, the first problem counts that is not the
absence of a file. -/
def loadFirst (t : FileTree) (short : Bool) (arguments : List String) :
    List String → Option FileProblem → Except FileProblem LoadedProgram
  | [], problem => .error (problem.getD .absent)
  | path :: paths, problem =>
    match load t short interpreterDepth path arguments with
    | .ok p => .ok p
    | .error .absent => loadFirst t short arguments paths problem
    | .error .notDirectory =>
      loadFirst t short arguments paths
        (if paths.isEmpty && problem.isNone then some .notDirectory else problem)
    | .error e => loadFirst t short arguments paths (problem <|> some e)

end ProofRelay.Shell
