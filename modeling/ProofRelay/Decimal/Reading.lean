import ProofRelay.Decimal.Binary64
import ProofRelay.Text.Blank
import ProofRelay.Text.DigitTable

/-!
# Reading numbers

Integers and floating-point numbers as an operator writes them: blanks around the number
(information separators apart), a sign, decimal digits of any script with single low lines
between them.  A floating-point number may have a fraction, an exponent, or be one of the words
for an infinity and for no number.

## Main definitions

* `readInt` : the integer that a text writes.
* `readFloat?` : the floating-point number that a text writes.
* `ofDecimal` : the number nearest to a decimal fraction.
-/

namespace ProofRelay.Decimal

open ProofRelay.Text

/-- The number of digits that an integer may be written with. -/
def digitLimit : Nat := 4300

/-- Digits with single low lines between them, where `ready` says that a digit stands before:
their values, and the text after the last one. -/
def digitRun (ready : Bool) : List Char → List Nat × List Char
  | [] => ([], [])
  | c :: s =>
    match digitValue? c with
    | some d =>
      let r := digitRun true s
      (d :: r.1, r.2)
    | none =>
      if ready && c == '_' then
        match s with
        | b :: _ =>
          if (digitValue? b).isSome then digitRun false s else ([], c :: s)
        | [] => ([], [c])
      else ([], c :: s)

/-- Whether a character may stand around a number: a blank that is no information separator. -/
def isMargin (c : Char) : Bool :=
  isBlank c && !(0x1c ≤ c.toNat && c.toNat ≤ 0x1f)

/-- A text without its margins. -/
def withoutMargins (text : String) : List Char :=
  ((text.toList.dropWhile isMargin).reverse.dropWhile isMargin).reverse

/-- The natural number of a list of digits. -/
def ofDigits (ds : List Nat) : Nat :=
  ds.foldl (fun n d => 10 * n + d) 0

/-- A sign in front of a number: whether it is negative, and the rest. -/
def signRun : List Char → Bool × List Char
  | '-' :: s => (true, s)
  | '+' :: s => (false, s)
  | s => (false, s)

/-- Why a text is no integer. -/
inductive IntRefusal where
  /-- It has another form. -/
  | invalid
  /-- It has this many digits, which is over the limit. -/
  | tooLong (digits : Nat)
  deriving DecidableEq, Repr

/-- The report that an integer has too many digits. -/
def tooManyDigits (digits : Nat) : String :=
  "Exceeds the limit (" ++ toString digitLimit ++
    " digits) for integer string conversion: value has " ++ toString digits ++
    " digits; use sys.set_int_max_str_digits() to increase the limit"

/-- The integer that a text writes. -/
def readInt (text : String) : Except IntRefusal Int :=
  let (negative, s) := signRun (withoutMargins text)
  match digitRun false s with
  | ([], _) => .error .invalid
  | (ds, []) =>
    if digitLimit < ds.length then .error (.tooLong ds.length)
    else
      let n : Int := ofDigits ds
      .ok (if negative then -n else n)
  | _ => .error .invalid

/-- The number nearest to `n * 10 ^ e`.  Exponents far outside the range of floating-point
numbers are answered without computing the power. -/
def ofDecimal (negative : Bool) (n : Nat) (e : Int) : Float :=
  let size := ((Nat.toDigits 10 n).length : Int) + e
  if n = 0 ∨ size < -330 then nearestFloat negative 0 1
  else if 320 < size then nearestFloat negative (Nat.pow 10 400) 1
  else
    match e with
    | .ofNat k => nearestFloat negative (n * Nat.pow 10 k) 1
    | .negSucc k => nearestFloat negative n (Nat.pow 10 (k + 1))

/-- The exponent part of a number, if the text has one and nothing else. -/
def exponentPart? : List Char → Option Int
  | [] => some 0
  | c :: s =>
    if c == 'e' || c == 'E' then
      let (negative, s) := signRun s
      match digitRun false s with
      | ([], _) => none
      | (ds, []) =>
        let n : Int := ofDigits ds
        some (if negative then -n else n)
      | _ => none
    else none

/-- The number that digits, a fraction and an exponent write. -/
def decimalNumber? (negative : Bool) (s : List Char) : Option Float :=
  let (whole, s) := digitRun false s
  let (fraction, s) :=
    match s with
    | '.' :: s => digitRun false s
    | s => ([], s)
  if whole.isEmpty && fraction.isEmpty then none
  else
    (exponentPart? s).map fun e =>
      ofDecimal negative (ofDigits (whole ++ fraction)) (e - fraction.length)

/-- The words for the numbers that have no digits. -/
def namedNumber? (negative : Bool) (s : List Char) : Option Float :=
  let word := String.ofList (s.map Char.toLower)
  if word = "inf" ∨ word = "infinity" then
    some (Float.ofBits (if negative then 0xfff0000000000000 else 0x7ff0000000000000))
  else if word = "nan" then some (Float.ofBits 0x7ff8000000000000)
  else none

/-- The floating-point number that a text writes. -/
def readFloat? (text : String) : Option Float :=
  let (negative, s) := signRun (withoutMargins text)
  match namedNumber? negative s with
  | some x => some x
  | none => decimalNumber? negative s

end ProofRelay.Decimal
