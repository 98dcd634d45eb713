import ProofRelay.Text.Folding
import ProofRelay.Text.Lines

/-!
# Help pages

The group of commands and every command has a page that says how it is used: a line with the
arguments, a sentence on the command, examples, and lists of the options and of the commands.  Texts
are folded into the columns of the page, while examples stay as they are.  The first part of a page
is also the reminder that comes before the report of a mistake.

## Main definitions

* `Page` : the pages.
* `Page.usage` : the first part of a page.
* `Page.text` : a page.
* `versionText` : the answer to the question for the version.
-/

namespace ProofRelay.CommandLine

open ProofRelay.Text

/-! ### Layout -/

/-- Texts behind one another, the second one folded into what is left of the columns and kept to the
right of the first one. -/
def besides (columns : Nat) (lead text : String) : List String :=
  match folded (columns - lead.length) text with
  | [] => [lead]
  | l :: ls => (lead ++ l) :: ls.map (blanks lead.length ++ ·)

/-- The width from which on an entry of a list has its text on lines of its own. -/
def entryLimit : Nat := 30

/-- A list of entries with texts.  The texts begin in one column, behind the widest entry that is
not too wide. -/
def entries (columns : Nat) (rows : List (String × String)) : List String :=
  let column := min (rows.foldl (fun n r => max n r.1.length) 0) entryLimit + 2
  rows.flatMap fun r =>
    let lines := (folded (max (columns - column - 2) 10) r.2)
    if r.1.length + 2 ≤ column then
      match lines with
      | [] => ["  " ++ r.1]
      | l :: ls => ("  " ++ r.1 ++ blanks (column - r.1.length) ++ l) ::
          ls.map (blanks (column + 2) ++ ·)
    else ("  " ++ r.1) :: lines.map (blanks (column + 2) ++ ·)

/-- The first words that fit together into some columns. -/
def fitting : Nat → List String → List String
  | _, [] => []
  | columns, w :: ws =>
    if w.length ≤ columns then w :: fitting (columns - w.length - 1) ws else []

/-- A sentence that is cut short behind a word if it is too long. -/
def shortened (columns : Nat) (sentence : String) : String :=
  if sentence.length ≤ columns then sentence
  else " ".intercalate (fitting (columns - 3) (cutAt ' ' sentence)) ++ "..."

/-! ### Pages -/

/-- The pages: the group of commands, and each command. -/
inductive Page where
  /-- The group of commands. -/
  | commands
  /-- The command that runs jobs. -/
  | run
  /-- The command that shows a plan. -/
  | plan
  /-- The command that polls a transaction once. -/
  | result
  /-- The command that checks the setup. -/
  | doctor
  deriving DecidableEq, Repr

namespace Page

/-- The name of a command. -/
def name : Page → String
  | commands => ""
  | run => "run"
  | plan => "plan"
  | result => "result"
  | doctor => "doctor"

/-- The commands in alphabetical order. -/
def all : List Page := [doctor, plan, result, run]

/-- The command of a name. -/
def ofName? (s : String) : Option Page :=
  all.find? fun p => p.name = s

/-- The words with which a command is called. -/
def call (program : String) : Page → String
  | commands => program
  | p => program ++ " " ++ p.name

/-- The arguments of a command. -/
def arguments : Page → String
  | commands => "[OPTIONS] COMMAND [ARGS]..."
  | run => "[OPTIONS] [START_BLOCK]"
  | result => "[OPTIONS] TX_HASH"
  | plan | doctor => "[OPTIONS]"

/-- What a command does. -/
def summary : Page → String
  | commands => "blockprover - turn block numbers into verified proofs."
  | run => "Capture, publish, prove and verify START_BLOCK (default from config)."
  | plan => "Print the task plan that \x60run\x60 would submit, without submitting it."
  | result => "Poll TX_HASH once and print its verification payload."
  | doctor => "Verify that every external tool and credential is in place."

/-- Examples of calls. -/
def examples : Page → List String
  | commands =>
    ["Quick start:",
      "  blockprover doctor              Check the setup",
      "  blockprover run 57437           Prove one block",
      "  blockprover run --mode latest   Prove the current chain head"]
  | run =>
    ["Examples:",
      "    blockprover run 57437",
      "    blockprover run --mode latest",
      "    blockprover run 57437 --mode follow --keep-going"]
  | plan | result | doctor => []

/-- The options of a command with what they are for. -/
def options : Page → List (String × String)
  | commands =>
    [("--version", "Show the version and exit."),
      ("--config FILE", "Global config file (default ~/.blockprover/config.json)"),
      ("-w, --workspace DIRECTORY",
        "Directory holding witnesses/, results/ and .blockprover/config.json (defaults to cwd)"),
      ("-v, --verbose", "Log tool invocations and poll details")]
  | run =>
    [("--mode [fixed|latest|follow]",
        "fixed: START_BLOCK once; latest: chain head once; follow: START_BLOCK, +1, +2, ...  " ++
          "[default: fixed]"),
      ("--count INTEGER RANGE", "Stop after N blocks  [x>=1]"),
      ("--mock-witness", "Skip capture/upload and submit the mock witness"),
      ("--halt-on-malformed / --keep-going",
        "Stop the run on a malformed verification (default from config)"),
      ("--poll-interval FLOAT RANGE", "Seconds between polls  [x>0]"),
      ("--max-wait FLOAT RANGE", "Give up on a tx after N seconds  [x>=0]")]
  | plan =>
    [("--checksum TEXT", "Witness checksum from calculate-hash  [required]"),
      ("--block INTEGER RANGE", "Derive the witness name from a block  [x>=0]"),
      ("--witness-name TEXT", "Witness object key (default witness-<block>.json)"),
      ("--witness-url TEXT", "Public witness URL (default derived from storage config)"),
      ("--pretty", "Indent the JSON")]
  | result => []
  | doctor => [("--need-chain", "Treat a missing chain RPC endpoint as a failure")]

/-- The option that every page has. -/
def helpOption : String × String := ("--help", "Show this message and exit.")

/-- The columns that the arguments need behind the call. -/
def argumentColumns : Nat := 20

/-- The first part of a page: the arguments are behind the call if there is room for them. -/
def usage (program : String) (columns : Nat) (p : Page) : String :=
  let title := "Usage: "
  let lead := title ++ p.call program ++ " "
  "\n".intercalate
    (if lead.length + argumentColumns ≤ columns then besides columns lead p.arguments
    else lead :: besides columns (blanks (title.length + 4)) p.arguments)

/-- The list of the commands, on the page of the group. -/
def commandList (columns : Nat) : Page → List String
  | commands =>
    let widest := all.foldl (fun n p => max n p.name.length) 0
    ["", "Commands:"] ++
      entries columns (all.map fun p => (p.name, shortened (columns - 6 - widest) p.summary))
  | _ => []

/-- The lines of a page behind its first part. -/
def body (columns : Nat) (p : Page) : List String :=
  "" :: besides columns (blanks 2) p.summary ++
    (if p.examples.isEmpty then [] else "" :: p.examples.map (blanks 2 ++ ·)) ++
    ["", "Options:"] ++ entries columns (p.options ++ [helpOption]) ++ p.commandList columns

/-- A page. -/
def text (program : String) (columns : Nat) (p : Page) : String :=
  "\n".intercalate (p.usage program columns :: p.body columns)

/-- The reminder before the report of a mistake. -/
def reminder (program : String) (columns : Nat) (p : Page) : String :=
  p.usage program columns ++ "\nTry '" ++ p.call program ++ " --help' for help.\n"

end Page

/-- The answer to the question for the version. -/
def versionText : String := "blockprover, version 0.1.0"

end ProofRelay.CommandLine
