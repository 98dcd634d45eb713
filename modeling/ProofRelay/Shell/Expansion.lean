import ProofRelay.Shell.Arithmetic
import ProofRelay.Shell.Pattern
import ProofRelay.Shell.State

/-!
# The values of words

The pieces of a word are replaced by what they stand for.  What was not quoted is then cut at
blanks and taken for a pattern of file names.

## Main definitions

* `Cell` : a part of a word with its pieces replaced.
* `cellsOf` : the cells of a word.
* `fieldsOf` : the words that a word stands for.
* `valueOf` : the one text that a word stands for.
-/

namespace ProofRelay.Shell

/-- A part of a word with its pieces replaced. -/
inductive Cell where
  /-- A character, whether it is quoted, and whether it may be cut away as a blank. -/
  | char (c : Char) (quoted splits : Bool)
  /-- A border between two words. -/
  | border
  /-- A place where a word is, even if it is empty. -/
  | anchor
  deriving DecidableEq, Repr

/-- The cells of a text. -/
def cellsOfText (quoted splits : Bool) (s : List Char) : List Cell :=
  let cells := s.map fun c => Cell.char c quoted splits
  if quoted then .anchor :: cells else cells

/-- The characters of cells, and whether they are quoted; a border is a blank. -/
def quotedChars (cells : List Cell) : List QuotedChar :=
  cells.filterMap fun
    | .char c quoted _ => some (c, quoted)
    | .border => some (' ', true)
    | .anchor => none

/-- The text of cells. -/
def textOfCells (cells : List Cell) : String :=
  String.ofList ((quotedChars cells).map (·.1))

/-! ### Parameters -/

/-- The number of a process as it is shown. -/
def processNumber (s : State) : String :=
  toString (1000 + s.process)

/-- The value of a parameter that is one text. -/
def parameterValue (s : State) (name : String) : Option String :=
  match name with
  | "#" => some (toString s.arguments.length)
  | "?" => some (toString s.status)
  | "$" => some (processNumber s)
  | "-" => some (String.ofList ((optionNames.map (·.1)).reverse.filter s.has))
  | "!" => none
  | "0" => some s.name
  | "@" => if s.arguments.isEmpty then none else some (" ".intercalate s.arguments)
  | "*" => if s.arguments.isEmpty then none else some (" ".intercalate s.arguments)
  | name =>
    match name.toNat? with
    | some n => s.arguments[n - 1]?
    | none => s.valueOf? name

/-- The cells of all arguments of the script. -/
def argumentCells (s : State) (together quoted : Bool) : List Cell :=
  if together && quoted then cellsOfText true false (" ".intercalate s.arguments).toList
  else
    (s.arguments.map fun a => cellsOfText quoted (!quoted) a.toList).intersperse [.border]
      |>.flatten

/-- The value of an expression, with the variables of the script. -/
def numberValue (expression : String) : Action Int := do
  let problem := fun (text : String) =>
    failWith 2 ("arithmetic expression: " ++ text ++ ": \"" ++ expression ++ "\"")
  match readExpr expression.toList with
  | none => problem "expecting primary"
  | some e =>
    let look := fun (name : String) => do
      match (← get).valueOf? name with
      | none | some "" => return 0
      | some v =>
        match (readExpr v.toList).bind fun
            | .number n => some n
            | .unary "-" (.number n) => some (-n)
            | _ => none with
        | some n => return wrapped n
        | none => failWith 2 ("Illegal number: " ++ v)
    e.value look (fun name v => assign name (toString v)) (problem "division by zero")

/-! ### Pieces -/

section Pieces

/- What a script prints. -/
variable (printedBy : List Char → Action (List UInt8))

/-- The text without line ends at its end. -/
def withoutLineEnds (s : List Char) : List Char :=
  (s.reverse.dropWhile (· == '\n')).reverse

/-- The text without the double quotes in it; a quoted one is kept. -/
def withoutMarks : List Char → List Char
  | '\\' :: c :: s => '\\' :: c :: withoutMarks s
  | '"' :: s => withoutMarks s
  | c :: s => c :: withoutMarks s
  | [] => []

/-- Cells whose characters may be cut away as blanks unless they are quoted. -/
def splitting (cells : List Cell) : List Cell :=
  cells.map fun
    | .char c false _ => .char c false true
    | cell => cell

/-- The cells of a word; the depth bounds how deep the arguments of changes are nested. -/
def cellsWithin : Nat → Word → Action (List Cell)
  | 0, _ => return []
  | _, [] => return []
  | depth + 1, p :: w => do
    let argumentCellsOf := fun (quoted : Bool) (argument : List Char) => do
      match if quoted then quotedPieces (withoutMarks argument) else asWord argument with
      | .error text => failWith 2 ("Syntax error: " ++ text)
      | .ok w => return splitting (← cellsWithin depth w)
    let cells ← (match p with
      | .text s quoted => pure (cellsOfText quoted false s)
      | .output script quoted => do
        let bytes ← printedBy script
        pure (cellsOfText quoted (!quoted) (withoutLineEnds (textOf bytes).toList))
      | .number expression quoted => do
        let cells ← argumentCellsOf true expression
        let n ← numberValue (textOfCells cells)
        pure (cellsOfText quoted (!quoted) (toString n).toList)
      | .parameter name change argument quoted => do
        let s ← get
        let shown := fun (v : String) => cellsOfText quoted (!quoted) v.toList
        let plain :=
          if name = "@" ∨ name = "*" then argumentCells s (name = "*") quoted
          else shown ((parameterValue s name).getD "")
        let value? := parameterValue s name
        let hasValue := fun (emptyToo : Bool) =>
          match value? with
          | none => false
          | some v => !(emptyToo && v.isEmpty)
        let missing := fun (text : String) => do
          failWith 2 (name ++ ": " ++ text)
        let unused : Action (List Cell) := do
          if s.has 'u' && value?.isNone && name ≠ "@" && name ≠ "*" then
            missing "parameter not set"
          else pure plain
        match change with
        | .none => unused
        | .length => do
          let _ ← unused
          pure (shown (toString ((value?.getD "").utf8ByteSize)))
        | .orElse emptyToo =>
          if hasValue emptyToo then pure plain else argumentCellsOf quoted argument
        | .instead emptyToo =>
          if hasValue emptyToo then argumentCellsOf quoted argument
          else pure (if quoted then [.anchor] else [])
        | .orAssign emptyToo =>
          if hasValue emptyToo then pure plain
          else do
            let v := textOfCells (← argumentCellsOf quoted argument)
            assign name v
            pure (shown v)
        | .orFail emptyToo =>
          if hasValue emptyToo then pure plain
          else do
            let v := textOfCells (← argumentCellsOf quoted argument)
            let usual := if emptyToo then "parameter not set or null" else "parameter not set"
            missing (if argument.isEmpty then usual else v)
        | .dropStart longest => do
          let p := patternOf (quotedChars (← argumentCellsOf false argument))
          pure (shown (String.ofList (withoutStart longest p (value?.getD "").toList)))
        | .dropEnd longest => do
          let p := patternOf (quotedChars (← argumentCellsOf false argument))
          pure (shown (String.ofList (withoutEnd longest p (value?.getD "").toList))))
    return cells ++ (← cellsWithin depth w)

/-- The number of pieces and nested pieces that a word may have. -/
def wordDepth : Nat := 10000

/-- The directories of the users of a system. -/
def userDirectories : List (String × String) :=
  [("root", "/root"), ("daemon", "/usr/sbin"), ("bin", "/bin"), ("nobody", "/nonexistent")]

/-- The directory of a user; without a name it is the operator's one. -/
def userDirectory? (s : State) (name : String) : Option String :=
  if name.isEmpty then s.valueOf? "HOME"
  else (userDirectories.find? fun p => p.1 = name).map (·.2)

/-- The cells of a word.  A tilde at its start, with the name of a user that reaches to a slash or
to the end of the word, is a directory. -/
def cellsOf (w : Word) : Action (List Cell) := do
  match w with
  | .text ('~' :: s) false :: rest =>
    let name := s.takeWhile (· != '/')
    let behind := s.drop name.length
    let directory? := userDirectory? (← get) (String.ofList name)
    match if behind.isEmpty && !rest.isEmpty then none else directory? with
    | some directory =>
      let cells ← cellsWithin printedBy wordDepth (.text behind false :: rest)
      return cellsOfText true false directory.toList ++ cells
    | none => cellsWithin printedBy wordDepth w
  | w => cellsWithin printedBy wordDepth w

/-- The one text that a word stands for. -/
def valueOf (w : Word) : Action String := do
  return textOfCells (← cellsOf printedBy w)

/-- The pattern that a word stands for. -/
def patternOfWord (w : Word) : Action (List PatternItem) := do
  return patternOf (quotedChars (← cellsOf printedBy w))

end Pieces

/-! ### Words -/

/-- Cells cut into words at borders and at characters that separate. -/
def splitCells (separates : Char → Bool) : List Cell → Option (List QuotedChar) →
    List (List QuotedChar)
  | [], none => []
  | [], some w => [w.reverse]
  | .border :: cs, w => (w.map (·.reverse)).toList ++ splitCells separates cs none
  | .anchor :: cs, w => splitCells separates cs (some (w.getD []))
  | .char c quoted splits :: cs, w =>
    if splits && separates c then (w.map (·.reverse)).toList ++ splitCells separates cs none
    else splitCells separates cs (some ((c, quoted) :: w.getD []))

/-- The names in a directory that fit a pattern, in order; a name that starts with a dot only when
the pattern does. -/
def namesIn (t : FileTree) (l : Location) (p : List PatternItem) : List String :=
  let names := t.entries.filterMap fun e =>
    if e.1.length = l.length + 1 && l.isPrefixOf e.1 then e.1.getLast? else none
  let hidden := p.head? = some (.one '.')
  (names.filter fun s => fits p s.toList && (hidden || s.toList.head? ≠ some '.')).mergeSort
    fun a b => a ≤ b

/-- The paths that fit a pattern, from a place that was reached under a written path on. -/
def pathsWithin (t : FileTree) : List (List QuotedChar) → String → Location → List String
  | [], path, _ => [path]
  | part :: parts, path, l =>
    let plain := String.ofList (part.map (·.1))
    let behind := if path.isEmpty then "" else if path = "/" then "/" else path ++ "/"
    let p := patternOf part
    if isOpen p then
      (namesIn t l p).flatMap fun name =>
        if parts.isEmpty || (t.find? (l ++ [name])).any (·.isDirectory) then
          pathsWithin t parts (behind ++ name) (l ++ [name])
        else []
    else
      let next := if plain.isEmpty || plain = "." then l else if plain = ".." then l.dropLast
        else l ++ [plain]
      if (t.find? next).isSome then pathsWithin t parts (behind ++ plain) next else []

/-- The words that a word with a pattern stands for: the paths that fit, or itself. -/
def matchingPaths (t : FileTree) (w : List QuotedChar) : List String :=
  let plain := String.ofList (w.map (·.1))
  if isOpen (patternOf w) then
    let isAbsolute := w.head?.any fun q => q.1 == '/'
    let cut := fun (w : List QuotedChar) =>
      w.foldr (fun q parts =>
        if q.1 == '/' then [] :: parts
        else
          match parts with
          | part :: more => (q :: part) :: more
          | [] => [[q]]) [[]]
    let found :=
      if isAbsolute then pathsWithin t ((cut w).drop 1) "/" []
      else pathsWithin t (cut w) "" t.here
    if found.isEmpty then [plain] else found
  else [plain]

/-- The characters that separate words. -/
def separators (s : State) : List Char :=
  ((s.valueOf? "IFS").getD " \t\n").toList

/-- The words that words stand for. -/
def fieldsOf (printedBy : List Char → Action (List UInt8)) : List Word → Action (List String)
  | [] => return []
  | w :: ws => do
    let cells ← cellsOf printedBy w
    let s ← get
    let fields := splitCells (separators s).contains cells none
    let found := if s.has 'f' then fields.map fun w => String.ofList (w.map (·.1))
      else fields.flatMap (matchingPaths s.files)
    return found ++ (← fieldsOf printedBy ws)

end ProofRelay.Shell
