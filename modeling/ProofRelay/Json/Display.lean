import ProofRelay.Decimal.Text
import ProofRelay.Json.Basic
import ProofRelay.Text.Quoted

/-!
# Showing values

How a value appears inside a report: a text stands for itself, and every other value is spelled
out, with the texts inside it quoted.

## Main definitions

* `Json.spelled` : a value spelled out.
* `Json.shown` : a value inside a report.
* `Json.after` : a value behind a text.
* `Json.report` : a report made of several values.
-/

namespace ProofRelay.Json

open ProofRelay.Text ProofRelay.Decimal

/-- How a code point is written between marks. -/
def spelledPoint (mark : Char) (n : Nat) : List Char :=
  match charOfPoint? n with
  | some c => Quoted.escape mark c
  | none => Quoted.numbered n

/-- A text of code points between its marks. -/
def spelledPoints (ps : List Nat) : String :=
  let m := Quoted.mark (ps.map charOfPoint)
  String.ofList (m :: ps.flatMap (spelledPoint m) ++ [m])

mutual

/-- A value spelled out. -/
def spelled : Json → String
  | null => "None"
  | bool true => "True"
  | bool false => "False"
  | int n => toString n
  | float x => exact x
  | str s => quoted s
  | torn ps => spelledPoints ps
  | arr xs => "[" ++ ", ".intercalate (spelledItems xs) ++ "]"
  | obj fs => "\x7b" ++ ", ".intercalate (spelledFields fs) ++ "\x7d"

/-- The items of a list spelled out. -/
def spelledItems : List Json → List String
  | [] => []
  | v :: vs => spelled v :: spelledItems vs

/-- The fields of an object spelled out. -/
def spelledFields : List (String × Json) → List String
  | [] => []
  | (k, v) :: fs => (quoted k ++ ": " ++ spelled v) :: spelledFields fs

end

/-- A value inside a report: a text stands for itself. -/
def shown (v : Json) : String :=
  v.text?.getD v.spelled

/-- A value inside a report behind a text; halves of surrogate pairs in it stay halves. -/
def after (lead : String) : Json → Json
  | torn ps => torn (pointsOfText lead ++ ps)
  | v => str (lead ++ v.shown)

/-- A report made of several values: one stands for itself, and more of them are listed between
parentheses. -/
def report : List Json → String
  | [] => ""
  | [v] => shown v
  | vs => "(" ++ ", ".intercalate (spelledItems vs) ++ ")"

end ProofRelay.Json
