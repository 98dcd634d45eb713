import ProofRelay.Shell.Syntax

/-!
# Tokens of a script

A script is cut into words, operators and redirections.  A word ends at a blank or an operator
that is not quoted.  The text inside of a substitution is found by its closing mark and is read
when the substitution takes place.

## Main definitions

* `Token` : the tokens.
* `tokens` : the tokens of a script, each with its line; a script that cannot be cut ends with a
  fault.
* `quotedPieces` : the pieces of a text that is read as if it stood between double quotes.
-/

namespace ProofRelay.Shell

/-- A token. -/
inductive Token where
  /-- A word. -/
  | word (w : Word)
  /-- An operator; the end of a line is one too. -/
  | operator (s : String)
  /-- A redirection. -/
  | redirect (r : Redirect)
  /-- The script cannot be read any further. -/
  | fault (report : String)
  deriving DecidableEq, Repr

/-! ### Character classes -/

/-- Whether a character can start a name. -/
def startsName (c : Char) : Bool :=
  c.isAlpha || c == '_'

/-- Whether a character can be in a name. -/
def isNameChar (c : Char) : Bool :=
  c.isAlphanum || c == '_'

/-- Whether a text is a name. -/
def isName (s : List Char) : Bool :=
  match s with
  | [] => false
  | c :: s => startsName c && s.all isNameChar

/-- Whether a character is a blank between words. -/
def isSpace (c : Char) : Bool :=
  c == ' ' || c == '\t'

/-- Whether a character ends a word. -/
def endsWord (c : Char) : Bool :=
  isSpace c || "\n;&|()<>".toList.contains c

/-- Whether a backslash between double quotes quotes a character. -/
def isEscapable (c : Char) : Bool :=
  "$\x60\"\\".toList.contains c

/-! ### Closing marks -/

/-- The text up to the closing mark on top of a stack of open ones, and the rest; marks that are
quoted do not count. -/
def upToMark : List Char → List Char → Option (List Char × List Char)
  | _, [] => none
  | [], _ => none
  | top :: opened, c :: s =>
    if c = top then
      if opened.isEmpty then some ([], s)
      else (upToMark opened s).map fun r => (c :: r.1, r.2)
    else
      let next := fun marks => (upToMark marks s).map fun r => (c :: r.1, r.2)
      if top = '\'' then next (top :: opened)
      else
        match c, s with
        | '\\', d :: t => (upToMark (top :: opened) t).map fun r => (c :: d :: r.1, r.2)
        | '$', '(' :: t => (upToMark (')' :: top :: opened) t).map fun r => (c :: '(' :: r.1, r.2)
        | '$', '{' :: t => (upToMark ('}' :: top :: opened) t).map fun r => (c :: '{' :: r.1, r.2)
        | _, _ =>
          if c = '"' ∨ c = '\x60' then next (c :: top :: opened)
          else if c = '\'' ∧ top ≠ '"' then next (c :: top :: opened)
          else if c = '(' ∧ top = ')' then next (')' :: top :: opened)
          else next (top :: opened)

/-- The text inside of back quotes, where a backslash quotes only some characters. -/
def unescaped : List Char → List Char
  | '\\' :: c :: s => if isEscapable c then c :: unescaped s else '\\' :: c :: unescaped s
  | c :: s => c :: unescaped s
  | [] => []

/-! ### Substitutions -/

/-- The change that the text behind a name asks for, with its argument. -/
def changeOf : List Char → Option (Change × List Char)
  | [] => some (.none, [])
  | ':' :: '-' :: s => some (.orElse true, s)
  | ':' :: '=' :: s => some (.orAssign true, s)
  | ':' :: '?' :: s => some (.orFail true, s)
  | ':' :: '+' :: s => some (.instead true, s)
  | '-' :: s => some (.orElse false, s)
  | '=' :: s => some (.orAssign false, s)
  | '?' :: s => some (.orFail false, s)
  | '+' :: s => some (.instead false, s)
  | '#' :: '#' :: s => some (.dropStart true, s)
  | '#' :: s => some (.dropStart false, s)
  | '%' :: '%' :: s => some (.dropEnd true, s)
  | '%' :: s => some (.dropEnd false, s)
  | _ => none

/-- Whether a character is a parameter of its own. -/
def isSpecial (c : Char) : Bool :=
  "@*#?-$!".toList.contains c

/-- The name of a parameter at the start of a text, and the rest. -/
def nameAtStart (s : List Char) : List Char × List Char :=
  match s with
  | [] => ([], [])
  | c :: t =>
    if startsName c then (s.takeWhile isNameChar, s.dropWhile isNameChar)
    else if c.isDigit then (s.takeWhile (·.isDigit), s.dropWhile (·.isDigit))
    else if isSpecial c then ([c], t)
    else ([], s)

/-- The piece that a text between braces writes. -/
def bracedPiece (quoted : Bool) (s : List Char) : Except String Piece :=
  match s with
  | '#' :: t =>
    match nameAtStart t with
    | (_ :: _, []) => .ok (.parameter (String.ofList t) .length [] quoted)
    | _ => plain s
  | _ => plain s
where
  /-- The piece of a parameter whose length is not asked for. -/
  plain (s : List Char) : Except String Piece :=
    match nameAtStart s with
    | ([], _) => .error "Bad substitution"
    | (name, rest) =>
      match changeOf rest with
      | some (change, argument) => .ok (.parameter (String.ofList name) change argument quoted)
      | none => .error "Bad substitution"

/-- What a dollar sign stands for, given the text behind it, and the rest. -/
def dollarPiece (quoted : Bool) (s : List Char) : Except String (Piece × List Char) :=
  match s with
  | '(' :: '(' :: t =>
    match upToMark [')', ')'] t with
    | some (inside, rest) => .ok (.number inside.dropLast quoted, rest)
    | none => .error "Missing '))'"
  | '(' :: t =>
    match upToMark [')'] t with
    | some (inside, rest) => .ok (.output inside quoted, rest)
    | none => .error "end of file unexpected (expecting \")\")"
  | '{' :: t =>
    match upToMark ['}'] t with
    | some (inside, rest) => do return (← bracedPiece quoted inside, rest)
    | none => .error "Missing '\x7d'"
  | c :: t =>
    if c.isDigit then .ok (.parameter (String.singleton c) .none [] quoted, t)
    else
      match nameAtStart s with
      | ([], _) => .ok (.text ['$'] quoted, s)
      | (name, rest) => .ok (.parameter (String.ofList name) .none [] quoted, rest)
  | [] => .ok (.text ['$'] quoted, [])

/-! ### Words -/

/-- A character before a word: it joins a text of its kind. -/
def joinText (c : Char) (quoted : Bool) : Word → Word
  | .text s q :: w =>
    if q = quoted then .text (c :: s) q :: w else .text [c] quoted :: .text s q :: w
  | w => .text [c] quoted :: w

/-- The pieces of a text between double quotes; the count bounds the number of its pieces. -/
def quotedPiecesWithin : Nat → List Char → Except String Word
  | 0, _ => .ok []
  | _, [] => .ok []
  | n + 1, '\\' :: '\n' :: s => quotedPiecesWithin n s
  | n + 1, '\\' :: c :: s =>
    if isEscapable c then return joinText c true (← quotedPiecesWithin n s)
    else return joinText '\\' true (joinText c true (← quotedPiecesWithin n s))
  | n + 1, '$' :: s => do
    let (p, rest) ← dollarPiece true s
    return p :: (← quotedPiecesWithin n rest)
  | n + 1, '\x60' :: s =>
    match upToMark ['\x60'] s with
    | some (inside, rest) => do
      return .output (unescaped inside) true :: (← quotedPiecesWithin n rest)
    | none => .error "EOF in backquote substitution"
  | n + 1, c :: s => return joinText c true (← quotedPiecesWithin n s)

/-- The pieces of a text that is read as if it stood between double quotes. -/
def quotedPieces (s : List Char) : Except String Word :=
  quotedPiecesWithin (s.length + 1) s

/-- A word at the start of a text up to a character that ends it, and the rest; the count bounds
the number of its pieces. -/
def wordWithin (ends : Char → Bool) : Nat → List Char → Except String (Word × List Char)
  | 0, s => .ok ([], s)
  | _, [] => .ok ([], [])
  | n + 1, c :: s =>
    if ends c then .ok ([], c :: s)
    else
      match c, s with
      | '\\', '\n' :: t => wordWithin ends n t
      | '\\', d :: t => do
        let (w, rest) ← wordWithin ends n t
        return (joinText d true w, rest)
      | '\'', t =>
        match upToMark ['\''] t with
        | none => .error "Unterminated quoted string"
        | some (inside, t) => do
          let (w, rest) ← wordWithin ends n t
          return (.text inside true :: w, rest)
      | '"', t =>
        match upToMark ['"'] t with
        | none => .error "Unterminated quoted string"
        | some (inside, t) => do
          let pieces ← quotedPieces inside
          let (w, rest) ← wordWithin ends n t
          return ((if pieces.isEmpty then [.text [] true] else pieces) ++ w, rest)
      | '$', t => do
        let (p, t) ← dollarPiece false t
        let (w, rest) ← wordWithin ends n t
        match p with
        | .text ['$'] _ => return (joinText '$' false w, rest)
        | p => return (p :: w, rest)
      | '\x60', t =>
        match upToMark ['\x60'] t with
        | none => .error "EOF in backquote substitution"
        | some (inside, t) => do
          let (w, rest) ← wordWithin ends n t
          return (.output (unescaped inside) false :: w, rest)
      | c, t => do
        let (w, rest) ← wordWithin ends n t
        return (joinText c false w, rest)

/-- A word at the start of a text, and the rest. -/
def wordAtStart (s : List Char) : Except String (Word × List Char) :=
  wordWithin endsWord (s.length + 1) s

/-- A text as one word. -/
def asWord (s : List Char) : Except String Word :=
  (wordWithin (fun _ => false) (s.length + 1) s).map (·.1)

/-- The text of a word without its quotes. -/
def plainText (w : Word) : List Char :=
  w.flatMap fun
    | .text s _ => s
    | _ => []

/-- Whether a part of a word is quoted. -/
def hasQuotes (w : Word) : Bool :=
  w.any fun
    | .text _ q => q
    | _ => false

/-! ### Redirections -/

/-- The lines of a text up to one that is a given word, and the rest. -/
def linesUpTo (mark : List Char) (dropTabs : Bool) : Nat → List Char → List Char × List Char
  | 0, s => ([], s)
  | _, [] => ([], [])
  | n + 1, s =>
    let line := s.takeWhile (· ≠ '\n')
    let rest := (s.dropWhile (· ≠ '\n')).drop 1
    let line := if dropTabs then line.dropWhile (· == '\t') else line
    if line = mark then ([], rest)
    else
      let (more, rest) := linesUpTo mark dropTabs n rest
      (line ++ '\n' :: more, rest)

/-- The operator of a redirection at the start of a text: its kind, its usual channel, and the
rest. -/
def redirectOperator? : List Char → Option (RedirectKind × Nat × List Char)
  | '>' :: '>' :: s => some (.append, 1, s)
  | '>' :: '&' :: s => some (.duplicate, 1, s)
  | '>' :: '|' :: s => some (.write, 1, s)
  | '>' :: s => some (.write, 1, s)
  | '<' :: '<' :: s => some (.here, 0, s)
  | '<' :: '&' :: s => some (.duplicate, 0, s)
  | '<' :: s => some (.read, 0, s)
  | _ => none

/-- The redirection of a text in the script behind a word: the text starts in the next line. -/
def hereRedirect (channel : Nat) (dropTabs : Bool) (mark : Word) (s : List Char) :
    Except String (Redirect × List Char) := do
  let line := s.takeWhile (· ≠ '\n')
  let below := (s.dropWhile (· ≠ '\n')).drop 1
  let (text, rest) := linesUpTo (plainText mark) dropTabs (below.length + 1) below
  let pieces ← if hasQuotes mark then .ok [.text text true] else quotedPieces text
  return (⟨channel, .here, pieces⟩, line ++ '\n' :: rest)

/-- A redirection at the start of a text, and the rest. -/
def redirectAtStart? (s : List Char) : Option (Except String (Redirect × List Char)) :=
  let digits := s.takeWhile (·.isDigit)
  match redirectOperator? (s.dropWhile (·.isDigit)) with
  | none => none
  | some (kind, usual, rest) =>
    let channel := if digits.isEmpty then usual else
      digits.foldl (fun n c => 10 * n + (c.toNat - 48)) 0
    let (dropTabs, rest) :=
      match kind, rest with
      | .here, '-' :: t => (true, t)
      | _, t => (false, t)
    some do
      let (target, rest) ← wordAtStart (rest.dropWhile isSpace)
      if target.isEmpty then
        .error (if (rest.head?.getD '\n') = '\n' then
          (if rest.isEmpty then "end of file unexpected" else "newline unexpected")
          else "\"" ++ String.ofList (rest.take 1) ++ "\" unexpected")
      else
        match kind with
        | .here => hereRedirect channel dropTabs target rest
        | _ => return (⟨channel, kind, target⟩, rest)

/-! ### All tokens -/

/-- An operator at the start of a text, and the rest. -/
def operatorAtStart? : List Char → Option (String × List Char)
  | '&' :: '&' :: s => some ("&&", s)
  | '|' :: '|' :: s => some ("||", s)
  | ';' :: ';' :: s => some (";;", s)
  | '&' :: s => some ("&", s)
  | '|' :: s => some ("|", s)
  | ';' :: s => some (";", s)
  | '(' :: s => some ("(", s)
  | ')' :: s => some (")", s)
  | _ => none

/-- The tokens of a text from a line on; the count bounds their number. -/
def tokensWithin : Nat → Nat → List Char → List (Nat × Token)
  | 0, _, _ => []
  | _, _, [] => []
  | n + 1, line, c :: s =>
    if isSpace c then tokensWithin n line s
    else if c = '\n' then (line, .operator "\n") :: tokensWithin n (line + 1) s
    else if c = '#' then tokensWithin n line (s.dropWhile (· ≠ '\n'))
    else if c = '\\' ∧ s.head? = some '\n' then tokensWithin n (line + 1) (s.drop 1)
    else
      let here := (c :: s)
      let linesTo := fun (rest : List Char) =>
        line + ((here.take (here.length - rest.length)).countP (· = '\n'))
      match redirectAtStart? here with
      | some (.ok (r, rest)) => (line, .redirect r) :: tokensWithin n line rest
      | some (.error report) => [(line, .fault report)]
      | none =>
        match operatorAtStart? here with
        | some (o, rest) => (line, .operator o) :: tokensWithin n line rest
        | none =>
          match wordAtStart here with
          | .ok (w, rest) => (line, .word w) :: tokensWithin n (linesTo rest) rest
          | .error report => [(linesTo [], .fault report)]

/-- The tokens of a script, each with its line. -/
def tokens (script : List Char) : List (Nat × Token) :=
  tokensWithin (2 * script.length + 1) 1 script

end ProofRelay.Shell
