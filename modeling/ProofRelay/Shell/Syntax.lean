/-!
# Commands of a shell

The tools of a run can be scripts.  A script is a list of commands; a word of a command is a list
of pieces, of which some stand for a value that is known only when the command runs.

## Main definitions

* `Piece`, `Word` : words.
* `Redirect` : where a command reads from and writes to.
* `Command` : the commands.
-/

namespace ProofRelay.Shell

/-- What happens to the value of a parameter. -/
inductive Change where
  /-- Nothing. -/
  | none
  /-- Its length is taken. -/
  | length
  /-- A word stands in for a value that is missing, or also for an empty one. -/
  | orElse (emptyToo : Bool)
  /-- The same, and the word becomes the value. -/
  | orAssign (emptyToo : Bool)
  /-- A value has to be there, or the script ends with the word. -/
  | orFail (emptyToo : Bool)
  /-- A word stands in for a value that is there, or also is not empty. -/
  | instead (emptyToo : Bool)
  /-- A part that matches a pattern is dropped at the start. -/
  | dropStart (longest : Bool)
  /-- A part that matches a pattern is dropped at the end. -/
  | dropEnd (longest : Bool)
  deriving DecidableEq, Repr

/-- A piece of a word. -/
inductive Piece where
  /-- Text as it stands. -/
  | text (s : List Char) (quoted : Bool)
  /-- The value of a parameter; the argument of the change is not read yet. -/
  | parameter (name : String) (change : Change) (argument : List Char) (quoted : Bool)
  /-- What a script prints. -/
  | output (script : List Char) (quoted : Bool)
  /-- The number that an expression gives. -/
  | number (expression : List Char) (quoted : Bool)
  deriving DecidableEq, Repr

/-- A word. -/
abbrev Word := List Piece

/-- What a redirection does. -/
inductive RedirectKind where
  /-- A file is written anew. -/
  | write
  /-- A file is written at its end. -/
  | append
  /-- A file is read. -/
  | read
  /-- A channel becomes the same as another one. -/
  | duplicate
  /-- The word itself is read. -/
  | here
  deriving DecidableEq, Repr

/-- A redirection of a channel. -/
structure Redirect where
  /-- The channel. -/
  channel : Nat
  /-- What is done. -/
  kind : RedirectKind
  /-- The file or the other channel. -/
  target : Word
  deriving DecidableEq, Repr

/-- A command. -/
inductive Command where
  /-- Assignments, words and redirections in a line. -/
  | simple (line : Nat) (assignments : List (String × Word)) (words : List Word)
      (redirects : List Redirect)
  /-- Nothing. -/
  | nothing
  /-- Commands of which each reads what the one before it prints. -/
  | pipeline (commands : List Command)
  /-- A command with the opposite outcome. -/
  | negated (c : Command)
  /-- One command after another. -/
  | sequence (a b : Command)
  /-- The second command after success. -/
  | both (a b : Command)
  /-- The second command after failure. -/
  | either (a b : Command)
  /-- A command that is not waited for. -/
  | background (c : Command)
  /-- A choice by the outcome of a command. -/
  | choice (condition yes no : Command)
  /-- Repetition as long as a condition succeeds, or until it does. -/
  | loop (untilSuccess : Bool) (condition body : Command)
  /-- Repetition for words, or for the arguments of the script. -/
  | each (name : String) (words : Option (List Word)) (body : Command)
  /-- A choice by the patterns that a word matches. -/
  | select (word : Word) (arms : List (List Word × Command))
  /-- A command with a state of its own. -/
  | isolated (c : Command)
  /-- A command with redirections. -/
  | redirected (c : Command) (redirects : List Redirect)
  /-- The definition of a command. -/
  | define (name : String) (body : Command)

end ProofRelay.Shell
