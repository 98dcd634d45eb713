import ProofRelay.Decimal.Reading
import ProofRelay.Fault
import ProofRelay.Json.Display
import ProofRelay.Text.Quoted

/-!
# Values as numbers

The number that a value stands for: a number itself, a truth value as zero or one, and a text
that writes a number.

## Main definitions

* `Json.toInt` : the whole number of a value, of a fraction its integer part.
* `Json.toFloat` : the floating-point number of a value.
-/

namespace ProofRelay.Json

open ProofRelay.Decimal ProofRelay.Text

/-- The whole number that a text writes, or the fault of one that writes none. -/
def intOfText (s : String) : Except Fault Int :=
  match readInt s with
  | .ok n => .ok n
  | .error .invalid =>
    .error (.value ("invalid literal for int() with base 10: " ++ quotedUpTo 200 s))
  | .error (.tooLong n) => .error (.value (tooManyDigits n))

/-- The floating-point number that a text writes, or the fault of one that writes none. -/
def floatOfText (s : String) : Except Fault Float :=
  match readFloat? s with
  | some x => .ok x
  | none => .error (.value ("could not convert string to float: " ++ quoted s))

/-- The fault of a text with a half in it, which writes no whole number. -/
def notWhole (ps : List Nat) : Fault :=
  .value ("invalid literal for int() with base 10: " ++
    String.ofList ((spelledPoints ps).toList.take 200))

/-- The whole number of a value, of a fraction its integer part. -/
def toInt : Json → Except Fault Int
  | bool b => .ok (if b then 1 else 0)
  | int n => .ok n
  | float x =>
    match truncate? x with
    | some n => .ok n
    | none =>
      if x.isNaN then .error (.value "cannot convert float NaN to integer")
      else .error (.defect .overflow "cannot convert float infinity to integer")
  | str s => intOfText s
  | torn ps => .error (notWhole ps)
  | v =>
    .error (.defect .mismatch
      ("int() argument must be a string, a bytes-like object or a real number, not '" ++
        v.kindName ++ "'"))

/-- The floating-point number of a value. -/
def toFloat : Json → Except Fault Float
  | bool b => .ok (if b then 1 else 0)
  | int n =>
    match ofInt? n with
    | some x => .ok x
    | none => .error (.defect .overflow "int too large to convert to float")
  | float x => .ok x
  | str s => floatOfText s
  | torn ps => .error (.value ("could not convert string to float: " ++ spelledPoints ps))
  | v =>
    .error (.defect .mismatch
      ("float() argument must be a string or a real number, not '" ++ v.kindName ++ "'"))

end ProofRelay.Json
