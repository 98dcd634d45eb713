import ProofRelay.CommandLine.Arguments
import ProofRelay.Decimal.Reading
import ProofRelay.Decimal.Text
import ProofRelay.Files.Tree

/-!
# Parameters of a command

A parameter is an option or a word that a command understands, with a rule how it changes what
the command is told to do.  The rules are applied in a fixed order: first those that end the
reading, then the parameters in the order in which they were given, and last the ones that were
not given.  So of two mistakes the one that comes first on the command line is reported.

## Main definitions

* `Parameter` : a parameter of a command.
* `Halt` : why the reading of a command ends early.
* `UsageFault` : a command that was not given as it should be.
* `readParameters` : what a list of arguments tells a command to do.
-/

namespace ProofRelay.CommandLine

open ProofRelay.Text ProofRelay.Decimal

/-! ### Values -/

/-- Why a value is refused. -/
inductive ValueRefusal where
  /-- It does not write a whole number. -/
  | notWhole (text : String)
  /-- It does not write a number. -/
  | notNumber (text : String)
  /-- It is outside of a range. -/
  | outside (shown range : String)
  /-- It is none of the offered words. -/
  | notOffered (text : String) (words : List String)
  /-- There is nothing at the path. -/
  | absent (kind path : String)
  /-- There is a file at the path. -/
  | isFile (kind path : String)
  /-- There is a directory at the path. -/
  | isDirectory (kind path : String)
  deriving DecidableEq, Repr

/-- The report of a value that is refused. -/
def ValueRefusal.report : ValueRefusal → String
  | notWhole text => quoted text ++ " is not a valid integer range."
  | notNumber text => quoted text ++ " is not a valid float range."
  | outside shown range => shown ++ " is not in the range " ++ range ++ "."
  | notOffered text words =>
    quoted text ++ " is not one of " ++ ", ".intercalate (words.map quoted) ++ "."
  | absent kind path => kind ++ " " ++ quoted path ++ " does not exist."
  | isFile kind path => kind ++ " " ++ quoted path ++ " is a file."
  | isDirectory kind path => kind ++ " " ++ quoted path ++ " is a directory."

/-- The whole number that a text writes, which has to be at least `least`. -/
def wholeFrom (least : Int) (text : String) : Except ValueRefusal Int :=
  match readInt text with
  | .error _ => .error (.notWhole text)
  | .ok n =>
    if n < least then .error (.outside (toString n) ("x>=" ++ toString least)) else .ok n

/-- The number that a text writes, which has to be positive. -/
def positiveNumber (text : String) : Except ValueRefusal Float :=
  match readFloat? text with
  | none => .error (.notNumber text)
  | some x => if x ≤ 0 then .error (.outside (exact x) "x>0") else .ok x

/-- The number that a text writes, which must not be negative. -/
def naturalNumber (text : String) : Except ValueRefusal Float :=
  match readFloat? text with
  | none => .error (.notNumber text)
  | some x => if x < 0 then .error (.outside (exact x) "x>=0") else .ok x

/-! ### Mistakes -/

/-- A command that was not given as it should be. -/
inductive UsageFault where
  /-- The arguments cannot be read. -/
  | arguments (f : ArgumentFault)
  /-- A value is refused. -/
  | value (place : String) (r : ValueRefusal)
  /-- An option is missing. -/
  | missingOption (name : String)
  /-- A word is missing. -/
  | missingWord (name : String)
  /-- There are more words than the command takes. -/
  | extraWords (words : List String)
  /-- There is no command. -/
  | noCommand
  /-- There is no such command, but there are some like it. -/
  | unknownCommand (name : String) (similar : List String)
  /-- The witness is not named. -/
  | unnamedWitness
  deriving DecidableEq, Repr

namespace UsageFault

/-- The report of a mistake. -/
def report : UsageFault → String
  | arguments f => f.report
  | value place r => "Invalid value for " ++ place ++ ": " ++ r.report
  | missingOption name => "Missing option " ++ quoted name ++ "."
  | missingWord name => "Missing argument " ++ quoted name ++ "."
  | extraWords words =>
    let noun := if words.length = 1 then "argument" else "arguments"
    "Got unexpected extra " ++ noun ++ " (" ++ " ".intercalate words ++ ")"
  | noCommand => "Missing command."
  | unknownCommand name similar => "No such command " ++ quoted name ++ "." ++ suggestion similar
  | unnamedWitness => "pass --witness-name or --block"

/-- Whether the report follows a reminder of how the command is used. -/
def showsUsage : UsageFault → Bool
  | arguments (.valueMissing _) => false
  | arguments (.valueUnwanted _) => false
  | _ => true

end UsageFault

/-- Why the reading of a command ends early. -/
inductive Halt where
  /-- The operator asked for nothing. -/
  | nothing
  /-- The operator asked for help. -/
  | help
  /-- The operator asked for the version. -/
  | version
  /-- The command was not given as it should be. -/
  | mistake (f : UsageFault)
  /-- A value cannot be worked with. -/
  | broken (f : Fault)

/-! ### Parameters -/

/-- A parameter of a command that is told `σ`. -/
structure Parameter (σ : Type) where
  /-- The option, or nothing for a word. -/
  form : Option OptionForm
  /-- Whether it ends the reading. -/
  isFirst : Bool
  /-- What it changes. -/
  read : Option Given → σ → Except Halt σ

namespace Parameter

variable {σ : Type}

/-- An option without a value. -/
def switch (names : List String) (change : σ → σ) : Parameter σ where
  form := some ⟨names, false⟩
  isFirst := false
  read := fun given s => if given.isSome then .ok (change s) else .ok s

/-- An option with a value that changes what the command is told, or is refused. -/
def option (names : List String) (change : String → σ → Except ValueRefusal σ) : Parameter σ where
  form := some ⟨names, true⟩
  isFirst := false
  read := fun given s =>
    match given.bind (·.value) with
    | none => .ok s
    | some text =>
      match change text s with
      | .ok s => .ok s
      | .error r => .error (.mistake (.value (" / ".intercalate (names.map quoted)) r))

/-- An option that has to be given. -/
def required (name : String) (change : String → σ → σ) : Parameter σ where
  form := some ⟨[name], true⟩
  isFirst := false
  read := fun given s =>
    match given.bind (·.value) with
    | none => .error (.mistake (.missingOption name))
    | some text => .ok (change text s)

/-- The option that asks for help. -/
def help : Parameter σ where
  form := some ⟨["--help"], false⟩
  isFirst := true
  read := fun given s => if given.isSome then .error .help else .ok s

/-- The names of an option; a word has none. -/
def names (p : Parameter σ) : List String :=
  (p.form.map (·.names)).getD []

/-- What was given for a parameter: of several values the last one. -/
def given? (p : Parameter σ) (a : Arguments) : Option Given :=
  match p.form with
  | some f => (a.options.reverse.find? fun g => f.names.contains g.name)
  | none => a.words.head?.map fun w => ⟨"", some w⟩

/-- The place of a parameter among all that was given: options where they were given first, then
the words, and then what was not given. -/
def place (p : Parameter σ) (a : Arguments) : Nat :=
  match p.form with
  | some f => (a.options.findIdx? fun g => f.names.contains g.name).getD (a.options.length + 1)
  | none => a.options.length

/-- The rank of a parameter in the order in which the rules are applied. -/
def rank (p : Parameter σ) (a : Arguments) : Nat :=
  if p.isFirst then p.place a else a.options.length + 2 + p.place a

end Parameter

/-- What a list of arguments tells a command to do, and the words that are left. -/
def readParameters {σ : Type} (parameters : List (Parameter σ)) (mixed : Bool) (initial : σ)
    (arguments : List String) : Except Halt (σ × List String) := do
  match readArguments (parameters.filterMap (·.form)) mixed arguments with
  | .error f => .error (.mistake (.arguments f))
  | .ok a =>
    let inOrder := parameters.mergeSort fun p q => p.rank a ≤ q.rank a
    let told ← inOrder.foldlM (fun s p => p.read (p.given? a) s) initial
    let taken := parameters.countP fun p => p.form.isNone
    return (told, a.words.drop taken)

/-- What a list of arguments tells a command to do that takes no further words. -/
def readAll {σ : Type} (parameters : List (Parameter σ)) (initial : σ)
    (arguments : List String) : Except Halt σ := do
  let (told, left) ← readParameters parameters true initial arguments
  if left.isEmpty then return told else .error (.mistake (.extraWords left))

end ProofRelay.CommandLine
