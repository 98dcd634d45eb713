import ProofRelay.Setup.Check
import ProofRelay.Text.UpperTable

/-!
# The report of a setup

One line for each check: its outcome in upper case, its name, what was found, and a hint if
there is one.

## Main definitions

* `SetupCheck.line` : the line of a check.
* `setupReport` : the lines of all checks.
-/

namespace ProofRelay

open ProofRelay.Text

/-- The line of a check. -/
def SetupCheck.line (c : SetupCheck) : String :=
  let hint := ((present c.hint).map (" | hint: " ++ ·)).getD ""
  "[" ++ inUpperCase c.status ++ "] " ++ c.name ++ ": " ++ c.detail.shown ++ hint

/-- The lines of all checks. -/
def setupReport (checks : List SetupCheck) : String :=
  "\n".intercalate (checks.map (·.line))

end ProofRelay
