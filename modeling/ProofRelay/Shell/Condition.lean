import ProofRelay.Files.Tree
import ProofRelay.Shell.Format

/-!
# Conditions of a script

What the words of a condition say: comparisons of texts and numbers, and questions about files.

## Main definitions

* `holds` : whether the words of a condition hold.
-/

namespace ProofRelay.Shell

/-- The number of a word, or the report of one that is no number. -/
def conditionNumber (s : String) : Except String Int :=
  let t := (s.toList.dropWhile isSpace).reverse.dropWhile isSpace |>.reverse
  let (negative, ds) := match t with
    | '-' :: ds => (true, ds)
    | '+' :: ds => (false, ds)
    | ds => (false, ds)
  if !ds.isEmpty && ds.all (·.isDigit) then
    let n := Int.ofNat (ds.foldl (fun n c => 10 * n + (c.toNat - 48)) 0)
    .ok (if negative then -n else n)
  else .error ("Illegal number: " ++ s)

/-- The comparisons of texts. -/
def textComparison? (o : String) : Option (String → String → Bool) :=
  match o with
  | "=" => some fun a b => a == b
  | "!=" => some fun a b => a != b
  | "<" => some fun a b => a < b
  | ">" => some fun a b => b < a
  | _ => none

/-- The comparisons of numbers. -/
def numberComparison? (o : String) : Option (Int → Int → Bool) :=
  match o with
  | "-eq" => some fun a b => a == b
  | "-ne" => some fun a b => a != b
  | "-lt" => some fun a b => a < b
  | "-le" => some fun a b => a ≤ b
  | "-gt" => some fun a b => b < a
  | "-ge" => some fun a b => b ≤ a
  | _ => none

/-- The questions about one word. -/
def question? (t : FileTree) (o : String) : Option (String → Bool) :=
  let entry := fun (s : String) => (t.statusOfText s).toOption
  let isFileWith := fun (p : List UInt8 → Nat → Bool) (s : String) =>
    match entry s with
    | some (.file bytes mode) => p bytes mode
    | _ => false
  match o with
  | "-n" => some fun s => !s.isEmpty
  | "-z" => some fun s => s.isEmpty
  | "-e" => some fun s => (entry s).isSome
  | "-r" => some fun s => (entry s).isSome
  | "-w" => some fun s => (entry s).isSome
  | "-f" => some (isFileWith fun _ _ => true)
  | "-s" => some fun s =>
    (entry s).any (·.isDirectory) || isFileWith (fun bytes _ => !bytes.isEmpty) s
  | "-d" => some fun s => (entry s).any (·.isDirectory)
  | "-x" => some fun s =>
    (entry s).any (·.isDirectory) || isFileWith (fun _ mode => mode &&& 0o111 != 0) s
  | _ => none

/-- The outcome of a comparison. -/
def comparison? (a o b : String) : Option (Except String Bool) :=
  match textComparison? o, numberComparison? o with
  | some f, _ => some (.ok (f a b))
  | none, some f => some do return f (← conditionNumber a) (← conditionNumber b)
  | none, none => none

/-- The outcome of a condition without connectives at the start of words, and the words behind
it. -/
def plainCondition (t : FileTree) : List String → Except String (Bool × List String)
  | a :: o :: b :: rest =>
    match comparison? a o b, question? t a with
    | some r, _ => do return (← r, rest)
    | none, some q => .ok (q o, b :: rest)
    | none, none => .ok (!a.isEmpty, o :: b :: rest)
  | [a, b] =>
    match question? t a with
    | some q => .ok (q b, [])
    | none => .ok (!a.isEmpty, [b])
  | [a] => .ok (!a.isEmpty, [])
  | [] => .ok (false, [])

/-- Whether words start with an exclamation mark that negates the condition behind it. -/
def isNegated : List String → Bool
  | "!" :: o :: rest => (comparison? "" o "").isNone || rest.isEmpty
  | _ => false

mutual

/-- The outcome of a part of a condition that no connective divides. -/
def conditionPart (t : FileTree) : Nat → List String → Except String (Bool × List String)
  | 0, _ => .error "too many arguments"
  | n + 1, ws =>
    if isNegated ws then do
      let (v, rest) ← conditionPart t n (ws.drop 1)
      return (!v, rest)
    else if ws.head? = some "(" && ws.length ≠ 1 then do
      match ← conditionWithin t n (ws.drop 1) with
      | (v, ")" :: rest) => return (v, rest)
      | _ => .error "closing paren expected"
    else plainCondition t ws

/-- The outcome of parts of which all have to hold. -/
def conditionAll (t : FileTree) : Nat → List String → Except String (Bool × List String)
  | 0, _ => .error "too many arguments"
  | n + 1, ws => do
    match ← conditionPart t n ws with
    | (v, "-a" :: rest) => do
      let (more, rest) ← conditionAll t n rest
      return (v && more, rest)
    | r => return r

/-- The outcome of parts of which one has to hold; the count bounds the depth. -/
def conditionWithin (t : FileTree) : Nat → List String → Except String (Bool × List String)
  | 0, _ => .error "too many arguments"
  | n + 1, ws => do
    match ← conditionAll t n ws with
    | (v, "-o" :: rest) => do
      let (more, rest) ← conditionWithin t n rest
      return (v || more, rest)
    | r => return r

end

/-- Whether the words of a condition hold. -/
def holds (t : FileTree) (ws : List String) : Except String Bool := do
  match ← conditionWithin t (3 * ws.length + 5) ws with
  | (v, []) => return v
  | (_, rest) => .error ((ws[ws.length - rest.length - 1]?).getD "" ++ ": unexpected operator")

end ProofRelay.Shell
