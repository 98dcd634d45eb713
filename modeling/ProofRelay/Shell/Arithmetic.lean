import ProofRelay.Shell.Tokens

/-!
# Arithmetic of a script

Expressions over whole numbers of 64 bits, with the operators in their usual order.

## Main definitions

* `Expr` : an expression.
* `readExpr` : the expression that a text writes.
* `Expr.value` : the value of an expression, with the assignments in it.
-/

namespace ProofRelay.Shell

/-- An expression. -/
inductive Expr where
  /-- A number. -/
  | number (n : Int)
  /-- A variable. -/
  | valueOf (name : String)
  /-- An operator before an expression. -/
  | unary (operator : String) (a : Expr)
  /-- An operator between two expressions. -/
  | binary (operator : String) (a b : Expr)
  /-- A choice by an expression. -/
  | choice (condition yes no : Expr)
  /-- An assignment, which may combine the old value with a new one. -/
  | assign (operator name : String) (a : Expr)

/-! ### Reading -/

/-- A part of an expression. -/
inductive ExprToken where
  /-- A number. -/
  | number (n : Int)
  /-- A name. -/
  | name (s : String)
  /-- An operator. -/
  | operator (s : String)
  deriving DecidableEq

/-- The operators, each before those that it starts with. -/
def exprOperators : List String :=
  ["<<=", ">>=", "&&", "||", "==", "!=", "<=", ">=", "<<", ">>", "+=", "-=", "*=", "/=", "%=",
    "&=", "|=", "^=", "+", "-", "*", "/", "%", "<", ">", "!", "~", "&", "|", "^", "?", ":", "=",
    "(", ")"]

/-- The value of a digit. -/
def digitValue (c : Char) : Nat :=
  if c.isDigit then c.toNat - 48 else if c.isLower then c.toNat - 87 else c.toNat - 55

/-- The number that a run of digits and letters writes, in the base that its start tells. -/
def numberOf? (s : List Char) : Option Int :=
  let within := fun (base : Nat) (ds : List Char) =>
    if !ds.isEmpty && ds.all fun c => digitValue c < base then
      some (Int.ofNat (ds.foldl (fun n c => base * n + digitValue c) 0))
    else none
  match s with
  | '0' :: 'x' :: ds => within 16 ds
  | '0' :: 'X' :: ds => within 16 ds
  | '0' :: d :: ds => within 8 (d :: ds)
  | ds => within 10 ds

/-- The parts of an expression; the count bounds their number. -/
def exprTokens : Nat → List Char → Option (List ExprToken)
  | 0, _ => none
  | _, [] => some []
  | n + 1, c :: s =>
    if isSpace c || c == '\n' then exprTokens n s
    else if c.isDigit then do
      let v ← numberOf? ((c :: s).takeWhile (·.isAlphanum))
      return .number v :: (← exprTokens n ((c :: s).dropWhile (·.isAlphanum)))
    else if startsName c then do
      let name := String.ofList ((c :: s).takeWhile isNameChar)
      return .name name :: (← exprTokens n ((c :: s).dropWhile isNameChar))
    else do
      let o ← exprOperators.find? fun o => o.toList.isPrefixOf (c :: s)
      return .operator o :: (← exprTokens n ((c :: s).drop o.length))

/-- The binary operators from the weakest to the strongest. -/
def exprLevels : List (List String) :=
  [["||"], ["&&"], ["|"], ["^"], ["&"], ["==", "!="], ["<", ">", "<=", ">="], ["<<", ">>"],
    ["+", "-"], ["*", "/", "%"]]

/-- The operators that assign. -/
def assigning : List String :=
  ["=", "+=", "-=", "*=", "/=", "%=", "&=", "|=", "^=", "<<=", ">>="]

/-- A reader of parts of an expression. -/
abbrev ExprReader := List ExprToken → Option (Expr × List ExprToken)

/-- The operands behind the first one of a level; the count bounds their number. -/
def levelRest (operators : List String) (operand : ExprReader) : Nat → Expr → ExprReader
  | 0, a => fun ts => some (a, ts)
  | n + 1, a => fun ts =>
    match ts with
    | .operator o :: rest =>
      if operators.contains o then do
        let (b, rest) ← operand rest
        levelRest operators operand n (.binary o a b) rest
      else some (a, ts)
    | ts => some (a, ts)

/-- The expressions of several levels over one reader of operands. -/
def levels (operand : ExprReader) : List (List String) → ExprReader
  | [] => operand
  | operators :: stronger => fun ts => do
    let next := levels operand stronger
    let (a, rest) ← next ts
    levelRest operators next rest.length a rest

/-- An operand, given the reader of whole expressions; the count bounds the operators before
it. -/
def operandOf (whole : ExprReader) : Nat → ExprReader
  | 0 => fun _ => none
  | n + 1 => fun ts =>
    match ts with
    | .number v :: rest => some (.number v, rest)
    | .name s :: rest => some (.valueOf s, rest)
    | .operator "(" :: rest => do
      match ← whole rest with
      | (a, .operator ")" :: rest) => some (a, rest)
      | _ => none
    | .operator o :: rest =>
      if ["-", "+", "!", "~"].contains o then do
        let (a, rest) ← operandOf whole n rest
        return (.unary o a, rest)
      else none
    | [] => none

/-- A whole expression; the count bounds its depth. -/
def wholeExpr : Nat → ExprReader
  | 0 => fun _ => none
  | n + 1 => fun ts =>
    let usual : ExprReader := fun ts => do
      let (a, rest) ← levels (operandOf (wholeExpr n) (n + 1)) exprLevels ts
      match rest with
      | .operator "?" :: rest => do
        match ← wholeExpr n rest with
        | (yes, .operator ":" :: rest) => do
          let (no, rest) ← wholeExpr n rest
          return (.choice a yes no, rest)
        | _ => none
      | rest => return (a, rest)
    match ts with
    | .name s :: .operator o :: rest =>
      if assigning.contains o then do
        let (a, rest) ← wholeExpr n rest
        return (.assign o s a, rest)
      else usual ts
    | ts => usual ts

/-- The expression that a text writes; nothing writes zero. -/
def readExpr (s : List Char) : Option Expr := do
  let ts ← exprTokens (s.length + 1) s
  if ts.isEmpty then return .number 0
  match ← wholeExpr (ts.length + 1) ts with
  | (a, []) => some a
  | _ => none

/-! ### Values -/

/-- A number in 64 bits. -/
def wrapped (n : Int) : Int :=
  n.bmod (Nat.pow 2 64)

/-- A truth value as a number. -/
def truth (b : Bool) : Int :=
  if b then 1 else 0

/-- The bits of a number. -/
def bitsOf (n : Int) : UInt64 :=
  UInt64.ofNat (n.emod (Nat.pow 2 64 : Nat)).toNat

/-- The value of an operator between two numbers; a division by zero has none. -/
def binaryValue (o : String) (a b : Int) : Option Int :=
  match o with
  | "+" => some (a + b)
  | "-" => some (a - b)
  | "*" => some (a * b)
  | "/" => if b = 0 then none else some (a.tdiv b)
  | "%" => if b = 0 then none else some (a.tmod b)
  | "==" => some (truth (a = b))
  | "!=" => some (truth (a ≠ b))
  | "<" => some (truth (a < b))
  | ">" => some (truth (a > b))
  | "<=" => some (truth (a ≤ b))
  | ">=" => some (truth (a ≥ b))
  | "<<" => some (a * (Nat.pow 2 (b.emod 64).toNat : Nat))
  | ">>" => some (a.shiftRight (b.emod 64).toNat)
  | "&" => some (Int.ofNat (bitsOf a &&& bitsOf b).toNat)
  | "|" => some (Int.ofNat (bitsOf a ||| bitsOf b).toNat)
  | "^" => some (Int.ofNat (bitsOf a ^^^ bitsOf b).toNat)
  | _ => some b

/-- The value of an operator before a number. -/
def unaryValue (o : String) (a : Int) : Int :=
  match o with
  | "-" => -a
  | "!" => truth (a = 0)
  | "~" => -a - 1
  | _ => a

/-- The value of an expression, with the values of variables threaded through; the second
operand of a connective is looked at only when it matters. -/
def Expr.value {m : Type → Type} [Monad m] (look : String → m Int) (put : String → Int → m Unit)
    (divided : m Int) : Expr → m Int
  | .number n => return wrapped n
  | .valueOf name => look name
  | .unary o a => return wrapped (unaryValue o (← a.value look put divided))
  | .binary o a b => do
    let x ← a.value look put divided
    if o = "&&" ∧ x = 0 then return 0
    else if o = "||" ∧ x ≠ 0 then return 1
    else
      let y ← b.value look put divided
      if o = "&&" ∨ o = "||" then return truth (y ≠ 0)
      else
        match binaryValue o x y with
        | some v => return wrapped v
        | none => divided
  | .choice c a b => do
    if (← c.value look put divided) ≠ 0 then a.value look put divided
    else b.value look put divided
  | .assign o name a => do
    let y ← a.value look put divided
    let v ←
      if o = "=" then pure (some y)
      else binaryValue (String.ofList o.toList.dropLast) (← look name) y |> pure
    match v with
    | some v => do
      put name (wrapped v)
      return wrapped v
    | none => divided

end ProofRelay.Shell
