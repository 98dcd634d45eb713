import ProofRelay.Text.Quoted
import ProofRelay.Text.Similarity

/-!
# Arguments of a command

The arguments of a command are options and words.  An option is known by its names, of which a
long one starts with two dashes and a short one is a dash and a letter.  The value of a long
option follows it after an equals sign or is the next argument; short ones can be written in one
argument, of which the last one may carry its value.  Two dashes alone end the options.

## Main definitions

* `OptionForm` : an option that a command knows.
* `Arguments` : the options and words that were given.
* `readArguments` : the options and words in a list of arguments.
* `ArgumentFault` : why arguments cannot be read.
-/

namespace ProofRelay.CommandLine

open ProofRelay.Text

/-- An option that a command knows. -/
structure OptionForm where
  /-- Its names, with the dashes. -/
  names : List String
  /-- Whether a value belongs to it. -/
  takesValue : Bool
  deriving DecidableEq, Repr

/-- An option that was given, or a word when there is no name. -/
structure Given where
  /-- The name. -/
  name : String
  /-- The value. -/
  value : Option String
  deriving DecidableEq, Repr

/-- What was given, each in order. -/
structure Arguments where
  /-- The options. -/
  options : List Given
  /-- The words. -/
  words : List String
  deriving DecidableEq, Repr

/-- Why arguments cannot be read. -/
inductive ArgumentFault where
  /-- An option that the command does not know, and the known ones that are like it. -/
  | unknown (name : String) (similar : List String)
  /-- An option without the value that belongs to it. -/
  | valueMissing (name : String)
  /-- An option with a value that does not belong to it. -/
  | valueUnwanted (name : String)
  deriving DecidableEq, Repr

/-- The known names like a name that is not known, in alphabetical order. -/
def similarTo (name : String) (known : List String) : List String :=
  (Similarity.closest name known).mergeSort fun a b => a ≤ b

/-- The question behind a report of a name that is not known. -/
def suggestion : List String → String
  | [] => ""
  | [name] => " Did you mean " ++ quoted name ++ "?"
  | names => " (Did you mean one of: " ++ ", ".intercalate (names.map quoted) ++ "?)"

/-- The report of arguments that cannot be read. -/
def ArgumentFault.report : ArgumentFault → String
  | unknown name similar => "No such option " ++ quoted name ++ "." ++ suggestion similar
  | valueMissing name => "Option " ++ quoted name ++ " requires an argument."
  | valueUnwanted name => "Option " ++ quoted name ++ " does not take a value."

/-! ### One argument -/

/-- What one argument says. -/
structure Reading where
  /-- The options in it. -/
  given : List Given
  /-- The option whose value is the next argument. -/
  awaiting : Option String

/-- The option of a name. -/
def formOf? (forms : List OptionForm) (name : String) : Option OptionForm :=
  forms.find? fun f => f.names.contains name

/-- Whether a name is a long one. -/
def isLong (name : String) : Bool :=
  name.toList.take 2 == ['-', '-']

/-- The long names of options. -/
def longNames (forms : List OptionForm) : List String :=
  (forms.flatMap (·.names)).filter isLong

/-- What an argument says that starts with a long name. -/
def readLong (forms : List OptionForm) (name : String) (value : Option String) :
    Except ArgumentFault Reading :=
  match formOf? forms name, value with
  | none, _ => .error (.unknown name (similarTo name (longNames forms)))
  | some f, some v =>
    if f.takesValue then .ok ⟨[⟨name, some v⟩], none⟩ else .error (.valueUnwanted name)
  | some f, none => if f.takesValue then .ok ⟨[], some name⟩ else .ok ⟨[⟨name, none⟩], none⟩

/-- What the letters of an argument with short names say. -/
def readLetters (forms : List OptionForm) : List Char → Except ArgumentFault Reading
  | [] => .ok ⟨[], none⟩
  | c :: s => do
    let name := String.ofList ['-', c]
    match formOf? forms name with
    | none => .error (.unknown name [])
    | some f =>
      if f.takesValue then
        if s.isEmpty then return ⟨[], some name⟩
        else return ⟨[⟨name, some (String.ofList s)⟩], none⟩
      else
        let r ← readLetters forms s
        return ⟨⟨name, none⟩ :: r.given, r.awaiting⟩

/-- What an argument that starts with a dash says. -/
def readOption (forms : List OptionForm) (argument : String) : Except ArgumentFault Reading :=
  let s := argument.toList
  if isLong argument then
    let name := String.ofList (s.takeWhile (· ≠ '='))
    match s.dropWhile (· ≠ '=') with
    | [] => readLong forms name none
    | _ :: v => readLong forms name (some (String.ofList v))
  else readLetters forms (s.drop 1)

/-- Whether an argument is an option. -/
def isOption (argument : String) : Bool :=
  match argument.toList with
  | '-' :: _ :: _ => true
  | _ => false

/-! ### All arguments -/

/-- The options and words in a list of arguments.  When they are not mixed, the options end at
the first word. -/
def readArguments (forms : List OptionForm) (mixed : Bool) :
    List String → Except ArgumentFault Arguments
  | [] => .ok ⟨[], []⟩
  | a :: rest =>
    if a = "--" then .ok ⟨[], rest⟩
    else if isOption a then
      match readOption forms a with
      | .error e => .error e
      | .ok r =>
        match r.awaiting, rest with
        | none, rest => do
          let more ← readArguments forms mixed rest
          return ⟨r.given ++ more.options, more.words⟩
        | some name, v :: rest => do
          let more ← readArguments forms mixed rest
          return ⟨r.given ++ ⟨name, some v⟩ :: more.options, more.words⟩
        | some name, [] => .error (.valueMissing name)
    else if mixed then do
      let more ← readArguments forms mixed rest
      return ⟨more.options, a :: more.words⟩
    else .ok ⟨[], a :: rest⟩

end ProofRelay.CommandLine
