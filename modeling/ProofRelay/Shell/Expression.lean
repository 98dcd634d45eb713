import ProofRelay.Shell.Filters

/-!
# Expressions of words

The program that works out an expression whose numbers, texts and operators are words of their own.
Values are texts; an operator on numbers asks for texts that write whole numbers.

## Main definitions

* `ExpressionProblem` : why an expression has no value.
* `expressionValue` : the value of an expression.
* `expressionProgram` : the program.
-/

namespace ProofRelay.Shell

/-- Why an expression has no value. -/
inductive ExpressionProblem where
  /-- There are no words. -/
  | empty
  /-- A word is missing behind another one. -/
  | lacking (word : String)
  /-- A parenthesis is not closed behind a word. -/
  | unclosed (word : String)
  /-- A word stands where none fits. -/
  | unexpected (word : String)
  /-- A text is no number. -/
  | noNumber
  /-- A number is divided by zero. -/
  | byZero

/-- The report of a problem. -/
def ExpressionProblem.report : ExpressionProblem → String
  | empty => "missing operand\nTry 'expr --help' for more information."
  | lacking word => "syntax error: missing argument after '" ++ word ++ "'"
  | unclosed word => "syntax error: expecting ')' after '" ++ word ++ "'"
  | unexpected word => "syntax error: unexpected argument '" ++ word ++ "'"
  | noNumber => "non-integer argument"
  | byZero => "division by zero"

/-- Whether a value counts as nothing. -/
def isNothing (value : String) : Bool :=
  value.isEmpty || value.toInt? = some 0

/-- The operators of a level, from the loosest one on. -/
def operatorsAt : Nat → List String
  | 0 => ["|"]
  | 1 => ["&"]
  | 2 => ["<", "<=", "=", "==", "!=", ">=", ">"]
  | 3 => ["+", "-"]
  | 4 => ["*", "/", "%"]
  | 5 => [":"]
  | _ => []

/-- The number that a text writes. -/
def wholeOf (value : String) : Except ExpressionProblem Int :=
  match value.toInt? with
  | some n => .ok n
  | none => .error .noNumber

/-- How many characters at the start of a text a pattern stands for. -/
def matchedStart (pattern text : String) : Nat :=
  ({ LinePattern.ofString pattern with fromStart := true }.reach? text.toList).getD 0

/-- The value of an operator at two values. -/
def operate (o a b : String) : Except ExpressionProblem String :=
  let truth := fun (v : Bool) => if v then "1" else "0"
  let order := fun (numbers : Int → Int → Bool) (texts : String → String → Bool) =>
    match a.toInt?, b.toInt? with
    | some x, some y => Except.ok (truth (numbers x y))
    | _, _ => Except.ok (truth (texts a b))
  match o with
  | "|" => .ok (if isNothing a then (if isNothing b then "0" else b) else a)
  | "&" => .ok (if isNothing a || isNothing b then "0" else a)
  | "<" => order (· < ·) (· < ·)
  | "<=" => order (· ≤ ·) (· ≤ ·)
  | "=" => order (· == ·) (· == ·)
  | "==" => order (· == ·) (· == ·)
  | "!=" => order (· != ·) (· != ·)
  | ">=" => order (· ≥ ·) (· ≥ ·)
  | ">" => order (· > ·) (· > ·)
  | ":" => .ok (toString (matchedStart b a))
  | o => do
    let x ← wholeOf a
    let y ← wholeOf b
    match o with
    | "+" => return toString (x + y)
    | "-" => return toString (x - y)
    | "*" => return toString (x * y)
    | _ =>
      if y = 0 then .error .byZero
      else return toString (if o = "/" then x.tdiv y else x.tmod y)

/-- The part of a text from a place on. -/
def partOf (text start size : String) : String :=
  match start.toInt?, size.toInt? with
  | some k, some n => if 0 < k && 0 < n then
      String.ofList ((text.toList.drop (k.toNat - 1)).take n.toNat)
    else ""
  | _, _ => ""

/-- The first place in a text with one of some characters. -/
def placeOf (text characters : String) : Nat :=
  match text.toList.findIdx? characters.toList.contains with
  | some k => k + 1
  | none => 0

mutual

/-- The value of an expression of a level at the start of words, and the words behind it; the depth
bounds how deep it is nested. -/
def valueAt : Nat → Nat → String → List String → Except ExpressionProblem (String × List String)
  | 0, _, last, _ => .error (.lacking last)
  | depth + 1, level, last, words =>
    if 6 ≤ level then simpleValue depth last words
    else do
      let (value, rest) ← valueAt depth (level + 1) last words
      valuesBehind depth level value rest

/-- The value of an expression of a level that goes on behind a value. -/
def valuesBehind : Nat → Nat → String → List String →
    Except ExpressionProblem (String × List String)
  | 0, _, value, words => .ok (value, words)
  | _, _, value, [] => .ok (value, [])
  | depth + 1, level, value, o :: words =>
    if (operatorsAt level).contains o then do
      let (other, rest) ← valueAt depth (level + 1) o words
      let result ← operate o value other
      valuesBehind depth level result rest
    else .ok (value, o :: words)

/-- The value of a word, of a function of words, or of an expression between parentheses. -/
def simpleValue : Nat → String → List String → Except ExpressionProblem (String × List String)
  | 0, last, _ => .error (.lacking last)
  | _, last, [] => .error (if last.isEmpty then .empty else .lacking last)
  | depth + 1, _, "(" :: words => do
    match ← valueAt depth 0 "(" words with
    | (value, ")" :: rest) => .ok (value, rest)
    | (_, w :: _) => .error (.unexpected w)
    | (_, []) => .error (.unclosed (words.getLastD ""))
  | depth + 1, _, "length" :: words => do
    let (value, rest) ← simpleValue depth "length" words
    .ok (toString value.length, rest)
  | depth + 1, _, "substr" :: words => do
    let (text, rest) ← simpleValue depth "substr" words
    let (start, rest) ← simpleValue depth text rest
    let (size, rest) ← simpleValue depth start rest
    .ok (partOf text start size, rest)
  | depth + 1, _, "index" :: words => do
    let (text, rest) ← simpleValue depth "index" words
    let (characters, rest) ← simpleValue depth text rest
    .ok (toString (placeOf text characters), rest)
  | depth + 1, _, "match" :: words => do
    let (text, rest) ← simpleValue depth "match" words
    let (pattern, rest) ← simpleValue depth text rest
    .ok (toString (matchedStart pattern text), rest)
  | _, _, "+" :: word :: rest => .ok (word, rest)
  | _, _, ")" :: _ => .error (.unexpected ")")
  | _, _, word :: rest => .ok (word, rest)

end

/-- The value of an expression. -/
def expressionValue (words : List String) : Except ExpressionProblem String := do
  match ← valueAt (8 * words.length + 8) 0 "" words with
  | (value, []) => return value
  | (_, w :: _) => .error (.unexpected w)

/-- The program that works out an expression; its status says whether the value is something. -/
def expressionProgram (words : List String) : Action Nat := do
  match expressionValue words with
  | .ok value => do
    say (value ++ "\n")
    return if isNothing value then 1 else 0
  | .error problem => do
    sayError ((← get).name ++ ": " ++ problem.report ++ "\n")
    return 2

end ProofRelay.Shell
