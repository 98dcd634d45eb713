import ProofRelay.Text.Blank
import ProofRelay.Text.Lines

/-!
# Labelled values in tool output

External tools print free text in which a value of interest follows a fixed label on its own
line, as in `Leaf: 0xdef`.  The value is the rest of the line, trimmed; a label with nothing
behind it has no value.

## Main definitions

* `Label.rests` : what follows the first occurrence of a label on each line.
* `Label.values`, `Label.value?` : all values of a label, and the first one.
* `Label.lineValues` : the values read line by line, for a label that lies on one line.
-/

namespace ProofRelay.Text.Label

/-- The rests of lines that follow a label, where `before` is the text already read, last
character first, and `taken` says that this line has been used.  A label may itself end a line,
in which case the whole next line follows it. -/
def restsFrom (label before : List Char) (taken : Bool) : List Char → List (List Char)
  | [] => []
  | c :: s =>
    if c = '\n' then restsFrom label (c :: before) false s
    else if taken then restsFrom label (c :: before) true s
    else if label.isPrefixOf before then
      (c :: s).takeWhile (· ≠ '\n') :: restsFrom label (c :: before) true s
    else restsFrom label (c :: before) false s

/-- What follows the first occurrence of a label on each line, as long as it is not empty. -/
def rests (label text : List Char) : List (List Char) :=
  restsFrom label.reverse [] false text

/-- All values of a label, in the order of the text. -/
def values (label text : String) : List String :=
  ((rests label.toList text.toList).map trim).filterMap fun v =>
    if v.isEmpty then none else some (String.ofList v)

/-- The first value of a label. -/
def value? (label text : String) : Option String :=
  (values label text).head?

/-! ### Line by line -/

/-- The text after the first occurrence of a label. -/
def after? (label : List Char) : List Char → Option (List Char)
  | [] => if label.isEmpty then some [] else none
  | c :: s =>
    if label.isPrefixOf (c :: s) then some ((c :: s).drop label.length) else after? label s

/-- The values of a label read line by line: each line that holds the label gives the trimmed
text after its first occurrence, unless that is empty. -/
def lineValues (label text : List Char) : List (List Char) :=
  ((lines text).filterMap (after? label)).map trim |>.filter (!·.isEmpty)

end ProofRelay.Text.Label
