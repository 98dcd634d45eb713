import ProofRelay.Shell.Tokens

/-!
# The grammar of a script

Tokens are put together to commands.  A script is read one line of commands at a time, since what
comes before a mistake is run.

## Main definitions

* `Parse` : readers of tokens.
* `nextLine` : the commands up to the end of a line, and the tokens behind them.
-/

namespace ProofRelay.Shell

/-- Tokens with their lines. -/
abbrev Tokens := List (Nat × Token)

/-- A mistake in a script. -/
structure Mistake where
  /-- The line, or nothing at the end of the script. -/
  line : Option Nat
  /-- The report. -/
  report : String

/-- A reader of tokens: what it read and the tokens behind it, or a mistake. -/
abbrev Parse (α : Type) := Tokens → Except Mistake (α × Tokens)

/-! ### Words with a meaning -/

/-- The words that structure a script. -/
def keywords : List String :=
  ["!", "\x7b", "\x7d", "case", "do", "done", "elif", "else", "esac", "fi", "for", "if", "in",
    "then", "until", "while"]

/-- The words that end a list of commands. -/
def closers : List String :=
  ["\x7d", "do", "done", "elif", "else", "esac", "fi", "then"]

/-- The keyword that a token is. -/
def keyword? : Token → Option String
  | .word [.text s false] =>
    let w := String.ofList s
    if keywords.contains w then some w else none
  | _ => none

/-- The name of what a script goes on with in a report. -/
def shownToken : Tokens → String
  | [] => "end of file"
  | (_, .operator "\n") :: _ => "newline"
  | (_, .operator s) :: _ => "\"" ++ s ++ "\""
  | (_, .redirect _) :: _ => "redirection"
  | (_, .fault report) :: _ => report
  | (_, t) :: _ =>
    match keyword? t with
    | some w => "\"" ++ w ++ "\""
    | none => "word"

/-- A mistake at the next token; the end of a line counts as the next line. -/
def mistakeAt (ts : Tokens) (report : String) : Mistake :=
  match ts with
  | (line, .operator "\n") :: _ => ⟨some (line + 1), report⟩
  | (line, _) :: _ => ⟨some line, report⟩
  | [] => ⟨none, report⟩

/-- The mistake of a token that does not belong where it is. -/
def unexpected {α : Type} (ts : Tokens) (expected : Option String) : Except Mistake α :=
  match ts with
  | (_, .fault report) :: _ => .error (mistakeAt ts report)
  | ts =>
    .error (mistakeAt ts (shownToken ts ++ " unexpected" ++
      match expected with
      | some s => " (expecting \"" ++ s ++ "\")"
      | none => ""))

/-- The tokens without line ends at their start. -/
def dropLines : Tokens → Tokens
  | (_, .operator "\n") :: ts => dropLines ts
  | ts => ts

/-- The tokens behind a keyword that has to come next. -/
def expectKeyword (w : String) : Parse Unit := fun ts =>
  match ts with
  | (_, t) :: rest => if keyword? t = some w then .ok ((), rest) else unexpected ts (some w)
  | [] => unexpected ts (some w)

/-- The tokens behind an operator that has to come next. -/
def expectOperator (s : String) : Parse Unit := fun ts =>
  match ts with
  | (_, .operator o) :: rest => if o = s then .ok ((), rest) else unexpected ts (some s)
  | ts => unexpected ts (some s)

/-! ### Simple commands -/

/-- The assignment that a word writes. -/
def assignment? : Word → Option (String × Word)
  | .text s false :: w =>
    let name := s.takeWhile (· ≠ '=')
    match s.dropWhile (· ≠ '=') with
    | _ :: value =>
      if isName name then
        some (String.ofList name, if value.isEmpty then w else .text value false :: w)
      else none
    | [] => none
  | _ => none

/-- Redirections at the start of tokens. -/
def redirects : Tokens → List Redirect × Tokens
  | (_, .redirect r) :: ts =>
    let (rs, rest) := redirects ts
    (r :: rs, rest)
  | ts => ([], ts)

/-- The parts of a simple command. -/
structure Parts where
  /-- The assignments in front. -/
  assignments : List (String × Word)
  /-- The words. -/
  words : List Word
  /-- The redirections. -/
  redirects : List Redirect

/-- The parts of a simple command; assignments end at the first other word. -/
def parts (started : Bool) : Tokens → Parts × Tokens
  | (_, .redirect r) :: ts =>
    let (p, rest) := parts started ts
    ({ p with redirects := r :: p.redirects }, rest)
  | (_, .word w) :: ts =>
    match if started then none else assignment? w with
    | some a =>
      let (p, rest) := parts false ts
      ({ p with assignments := a :: p.assignments }, rest)
    | none =>
      let (p, rest) := parts true ts
      ({ p with words := w :: p.words }, rest)
  | ts => (⟨[], [], []⟩, ts)

/-- A simple command. -/
def simpleCommand : Parse Command := fun ts =>
  match ts with
  | [] => unexpected ts none
  | (line, _) :: _ =>
    let (p, rest) := parts false ts
    if p.assignments.isEmpty && p.words.isEmpty && p.redirects.isEmpty then unexpected ts none
    else
      match rest with
      | (_, .fault report) :: _ => .error (mistakeAt rest report)
      | (_, .operator "(") :: _ => unexpected rest none
      | rest => .ok (.simple line p.assignments p.words p.redirects, rest)

/-! ### Structures -/

/-- The words between `in` and the end of a line. -/
def wordsToEnd : Tokens → List Word × Tokens
  | (_, .word w) :: ts =>
    let (ws, rest) := wordsToEnd ts
    (w :: ws, rest)
  | ts => ([], ts)

/-- The patterns of an arm, up to the closing parenthesis. -/
def patterns : Parse (List Word)
  | (_, .word w) :: (_, .operator ")") :: ts => .ok ([w], ts)
  | (_, .word w) :: (_, .operator "|") :: ts => do
    let (ws, rest) ← patterns ts
    return (w :: ws, rest)
  | (_, .word _) :: ts => unexpected ts (some ")")
  | ts => unexpected ts none

section Structures

/- The reader of a list of commands over several lines, which may be empty if asked to. -/
variable (inner : Bool → Parse Command)

/-- The arms of a choice by patterns; the count bounds their number. -/
def arms : Nat → Parse (List (List Word × Command))
  | 0 => fun ts => unexpected ts none
  | n + 1 => fun ts => do
    let ts := dropLines ts
    match ts with
    | (_, t) :: rest =>
      if keyword? t = some "esac" then return ([], rest)
      else
        let ts := match ts with
          | (_, .operator "(") :: rest => rest
          | ts => ts
        let (ps, ts) ← patterns ts
        let (body, ts) ← inner true ts
        match ts with
        | (_, .operator ";;") :: ts =>
          let (more, rest) ← arms n ts
          return ((ps, body) :: more, rest)
        | ts =>
          let ((), rest) ← expectKeyword "esac" ts
          return ([(ps, body)], rest)
    | [] => unexpected ts (some ")")

/-- The rest of a choice behind its first word; the count bounds the number of its conditions. -/
def choiceRest : Nat → Parse Command
  | 0 => fun ts => unexpected ts none
  | n + 1 => fun ts => do
    let (condition, ts) ← inner false ts
    let ((), ts) ← expectKeyword "then" ts
    let (yes, ts) ← inner false ts
    match ts with
    | (_, t) :: rest =>
      if keyword? t = some "elif" then
        let (no, rest) ← choiceRest n rest
        return (.choice condition yes no, rest)
      else if keyword? t = some "else" then
        let (no, ts) ← inner false rest
        let ((), rest) ← expectKeyword "fi" ts
        return (.choice condition yes no, rest)
      else
        let ((), rest) ← expectKeyword "fi" ts
        return (.choice condition yes .nothing, rest)
    | [] => unexpected ts (some "fi")

/-- The body of a repetition. -/
def loopBody : Parse Command := fun ts => do
  let ((), ts) ← expectKeyword "do" ts
  let (body, ts) ← inner false ts
  let ((), rest) ← expectKeyword "done" ts
  return (body, rest)

/-- A repetition for words. -/
def eachRest : Parse Command := fun ts =>
  match ts with
  | (_, .word w) :: ts =>
    let name := String.ofList (plainText w)
    if hasQuotes w || !isName (plainText w) then .error (mistakeAt ts "Bad for loop variable")
    else
      match dropLines ts with
      | (line, t) :: rest =>
        if keyword? t = some "in" then do
          let (ws, ts) := wordsToEnd rest
          let ts ← match ts with
            | (_, .operator ";") :: ts => pure ts
            | (_, .operator "\n") :: ts => pure ts
            | ts => unexpected ts none
          let (body, rest) ← loopBody inner (dropLines ts)
          return (.each name (some ws) body, rest)
        else do
          let ts := match t with
            | .operator ";" => dropLines rest
            | _ => (line, t) :: rest
          let (body, rest) ← loopBody inner ts
          return (.each name none body, rest)
      | [] => unexpected [] (some "do")
  | ts => unexpected ts none

/-- A choice by patterns. -/
def selectRest (n : Nat) : Parse Command := fun ts =>
  match ts with
  | (_, .word w) :: ts => do
    let ((), ts) ← expectKeyword "in" (dropLines ts)
    let (branches, rest) ← arms inner n ts
    return (.select w branches, rest)
  | ts => unexpected ts none

/-- A structure that starts with a keyword. -/
def structured (n : Nat) (w : String) : Parse Command := fun ts =>
  match w with
  | "\x7b" => do
    let (c, ts) ← inner false ts
    let ((), rest) ← expectKeyword "\x7d" ts
    return (c, rest)
  | "if" => choiceRest inner n ts
  | "while" => do
    let (condition, ts) ← inner false ts
    let (body, rest) ← loopBody inner ts
    return (.loop false condition body, rest)
  | "until" => do
    let (condition, ts) ← inner false ts
    let (body, rest) ← loopBody inner ts
    return (.loop true condition body, rest)
  | "for" => eachRest inner ts
  | "case" => selectRest inner n ts
  | _ => unexpected ts none

/-- A command with redirections behind it. -/
def withRedirects (c : Command) : Parse Command := fun ts =>
  match redirects ts with
  | ([], rest) => .ok (c, rest)
  | (rs, rest) => .ok (.redirected c rs, rest)

/-- A command that is no pipeline. -/
def command (n : Nat) : Parse Command := fun ts =>
  match ts with
  | (_, .operator "(") :: ts => do
    let (c, ts) ← inner false ts
    let ((), ts) ← expectOperator ")" ts
    withRedirects (.isolated c) ts
  | (_, .word w) :: (_, .operator "(") :: (_, .operator ")") :: ts =>
    if hasQuotes w || !isName (plainText w) then .error (mistakeAt ts "Bad function name")
    else
      match dropLines ts with
      | (_, .operator "(") :: ts => do
        let (c, ts) ← inner false ts
        let ((), rest) ← expectOperator ")" ts
        return (.define (String.ofList (plainText w)) (.isolated c), rest)
      | ts => do
        let ((), ts) ← expectKeyword "\x7b" ts
        let (c, ts) ← inner false ts
        let ((), rest) ← expectKeyword "\x7d" ts
        return (.define (String.ofList (plainText w)) c, rest)
  | (_, .word _) :: (_, .operator "(") :: ts => unexpected ts (some ")")
  | (_, t) :: rest =>
    match keyword? t with
    | some "in" => simpleCommand ts
    | some w => do
      if closers.contains w then unexpected ts none
      else
        let (c, ts) ← structured inner n w rest
        withRedirects c ts
    | none => simpleCommand ts
  | [] => unexpected [] none

/-- The commands of a pipeline; the count bounds their number. -/
def pipelineRest : Nat → Parse (List Command)
  | 0 => fun ts => unexpected ts none
  | n + 1 => fun ts => do
    let (c, ts) ← command inner n ts
    match ts with
    | (_, .operator "|") :: ts =>
      let (more, rest) ← pipelineRest n (dropLines ts)
      return (c :: more, rest)
    | ts => return ([c], ts)

/-- A pipeline, which may be negated. -/
def pipeline (n : Nat) : Parse Command := fun ts => do
  let (negated, ts) := match ts with
    | (_, t) :: rest => if keyword? t = some "!" then (true, rest) else (false, ts)
    | [] => (false, ts)
  let (cs, rest) ← pipelineRest inner n ts
  let c := match cs with
    | [c] => c
    | cs => .pipeline cs
  return (if negated then .negated c else c, rest)

/-- The pipelines behind one that are bound to it by success or failure. -/
def boundRest (first : Command) : Nat → Parse Command
  | 0 => fun ts => unexpected ts none
  | n + 1 => fun ts =>
    match ts with
    | (_, .operator "&&") :: ts => do
      let (c, rest) ← pipeline inner n (dropLines ts)
      boundRest (.both first c) n rest
    | (_, .operator "||") :: ts => do
      let (c, rest) ← pipeline inner n (dropLines ts)
      boundRest (.either first c) n rest
    | ts => .ok (first, ts)

/-- Pipelines that are bound by success or failure. -/
def bound (n : Nat) : Parse Command := fun ts => do
  let (c, rest) ← pipeline inner n ts
  boundRest inner c n rest

/-- Whether a list of commands ends here. -/
def isClosed : Tokens → Bool
  | [] => true
  | (_, .operator o) :: _ => o == ")" || o == ";;"
  | (_, t) :: _ => (keyword? t).any closers.contains

/-- Commands one after another; line ends separate them too if there may be several lines. -/
def commands (lines : Bool) : Nat → Parse Command
  | 0 => fun ts => unexpected ts none
  | n + 1 => fun ts => do
    let (c, ts) ← bound inner n ts
    match ts with
    | (_, .operator o) :: rest =>
      if o = "&" || o = ";" || (lines && o = "\n") then
        let c := if o = "&" then .background c else c
        let rest := if lines then dropLines rest else rest
        let ends := match rest with
          | (_, .operator "\n") :: _ => true
          | rest => isClosed rest
        if ends then return (c, rest)
        else
          let (more, rest) ← commands lines n rest
          return (.sequence c more, rest)
      else return (c, ts)
    | ts => return (c, ts)

end Structures

/-- A list of commands over several lines; the count bounds how deep structures are nested and
how long the list is. -/
def commandList : Nat → Bool → Parse Command
  | 0, _ => fun ts => unexpected ts none
  | n + 1, mayBeEmpty => fun ts =>
    let ts := dropLines ts
    if ts.isEmpty || (isClosed ts && mayBeEmpty) then .ok (.nothing, ts)
    else commands (commandList n) true (n + 1) ts

/-- The commands up to the end of a line, and the tokens behind them; nothing at the end of the
script. -/
def nextLine (ts : Tokens) : Except Mistake (Option (Command × Tokens)) :=
  match dropLines ts with
  | [] => .ok none
  | ts => do
    let (c, rest) ← commands (commandList (ts.length + 1)) false (ts.length + 2) ts
    match rest with
    | [] => return some (c, [])
    | (_, .operator "\n") :: rest => return some (c, rest)
    | rest => unexpected rest none

end ProofRelay.Shell
