import ProofRelay.Text.Styling
import ProofRelay.World.Basic

/-!
# What the operator sees

The journal of a run as the texts of its two channels.  Log lines go to the second one, between
the reports of problems, and carry the time, which is written as a mark here.  A text for the
operator is echoed: a terminal shows it as it is, and a channel that leads elsewhere may leave out
the control sequences in it.  Drawings are made for their screen and pass as they are.

## Main definitions

* `Level.isShown` : whether a log line is shown.
* `Echo` : how texts get to a channel.
* `Echo.out`, `Echo.err` : the texts of the two channels.
* `shownOut`, `shownErr` : the same where neither channel leads to a terminal.
-/

namespace ProofRelay

open ProofRelay.Text

/-- Whether a log line of a level is shown: lines for the search for mistakes only when the
operator asked for them. -/
def Level.isShown (verbose : Bool) : Level → Bool
  | .debug => verbose
  | _ => true

namespace CommandLine

/-- The mark for the time of a log line. -/
def timeMark : String := "<time>"

/-- How texts for the operator get to a channel. -/
structure Echo where
  /-- What is written for a text. -/
  pass : String → String
  /-- A text without control sequences is written as it is. -/
  pass_eq_self : ∀ {text : String}, Styling.escape ∉ text.toList → pass text = text

namespace Echo

/-- To a terminal. -/
def terminal : Echo := ⟨id, fun _ => rfl⟩

/-- To a file or to another program: without the control sequences. -/
def piped : Echo := ⟨plain, plain_eq_self⟩

variable (echo : Echo)

/-- The text of an entry on the first channel. -/
def outText : Event → String
  | .out text => echo.pass text
  | .drawn text => text
  | _ => ""

/-- The text of an entry on the second channel. -/
def errText (verbose : Bool) : Event → String
  | .err text => echo.pass text
  | .log level _ message =>
    if level.isShown verbose then timeMark ++ " - " ++ level.name ++ " - " ++ message ++ "\n"
    else ""
  | _ => ""

/-- The text of the first channel. -/
def out (events : List Event) : String :=
  String.join (events.map echo.outText)

/-- The text of the second channel. -/
def err (verbose : Bool) (events : List Event) : String :=
  String.join (events.map (echo.errText verbose))

end Echo

/-- The text of a first channel that leads to no terminal. -/
def shownOut (events : List Event) : String :=
  Echo.piped.out events

/-- The text of a second channel that leads to no terminal. -/
def shownErr (verbose : Bool) (events : List Event) : String :=
  Echo.piped.err verbose events

end CommandLine

end ProofRelay
