import ProofRelay.Decimal.Reading
import ProofRelay.Json.Number
import ProofRelay.Text.Styling
import ProofRelay.World.Basic

/-!
# The screen

The environment may state how many columns the operator's screen has; otherwise there are eighty.
Pages are kept narrower than the screen and are laid out for eighty columns at most, while a
drawing takes the screen as it is.  A drawing is a text without styles, unless the environment says
that there is a terminal that shows them.

## Main definitions

* `Screen.pageColumns` : the columns of a page.
* `Screen.palette` : what is shown of the styles of a drawing.
* `Screen.canvas` : the columns and the styles of a drawing.
-/

namespace ProofRelay.CommandLine

open ProofRelay.Text ProofRelay.Decimal

/-- The room for a drawing. -/
structure Canvas where
  /-- The number of columns. -/
  columns : Nat
  /-- What is shown of styles. -/
  palette : Palette

namespace Screen

/-- The variable that states the number of columns. -/
def columnsVariable : String := "COLUMNS"

/-- The variable that states the number of lines. -/
def linesVariable : String := "LINES"

/-- The number of columns where none is stated. -/
def usualColumns : Nat := 80

variable (environment : List (String × String))

/-! ### Pages -/

/-- The columns of a page: two less than those of the screen. A page needs fifty columns and uses
no more than a usual screen has. -/
def pageColumns : Nat :=
  let stated := match (valueIn? environment columnsVariable).map readInt with
    | some (.ok n) => n.toNat
    | _ => 0
  max (min (if stated = 0 then usualColumns else stated) usualColumns - 2) 50

/-! ### Drawings -/

/-- The value of a variable, which is empty where it has none. -/
def valueOf (name : String) : String :=
  (valueIn? environment name).getD ""

/-- The measure of the screen that a variable states: a text of digits alone.  Digits that no
number is written with make it a fault. -/
def measure? (name : String) : Except Fault (Option Nat) :=
  let text := valueOf environment name
  if text ≠ "" ∧ text.toList.all isDigitOfAnyUse then
    return some (← Json.intOfText text).toNat
  else return none

/-- Whether the output goes to a terminal: the environment can say so or deny it, and a wish for
colours says so as well. -/
def hasTerminal : Bool :=
  match valueOf environment "TTY_COMPATIBLE" with
  | "0" => false
  | "1" => true
  | _ => valueOf environment "FORCE_COLOR" ≠ ""

/-- Whether a terminal is one that cannot do more than write. -/
def isSimpleTerminal : Bool :=
  ["dumb", "unknown"].contains
    (String.ofList ((valueOf environment "TERM").toList.map Char.toLower))

/-- What is shown of the styles of a drawing. -/
def palette : Palette :=
  if !hasTerminal environment || isSimpleTerminal environment then .textOnly
  else if valueOf environment "NO_COLOR" ≠ "" then .colourless
  else .coloured

/-- The room for a drawing.  A terminal that cannot do more than write has the usual number of
columns, unless columns and lines are both stated. -/
def canvas : Except Fault Canvas := do
  let columns ← measure? environment columnsVariable
  let lines ← measure? environment linesVariable
  let isFixed := lines.isNone && hasTerminal environment && isSimpleTerminal environment
  let columns := if isFixed then none else columns
  return ⟨columns.getD usualColumns, palette environment⟩

end Screen

end ProofRelay.CommandLine
