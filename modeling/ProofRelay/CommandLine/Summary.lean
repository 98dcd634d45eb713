import ProofRelay.Rounds
import ProofRelay.Text.Styling

/-!
# The table of a run

After a run every block is shown with its outcome in a table of two columns under a title.  What the
table looks like on a screen is not told here.

## Main definitions

* `Table` : a table of two columns.
* `summary` : the table of the blocks that were done.
-/

namespace ProofRelay.CommandLine

open ProofRelay.Text

/-- A table of two columns under a title.  The texts of the first column are at its right. -/
structure Table where
  /-- The title. -/
  title : String
  /-- What stands above the two columns. -/
  heads : String × String
  /-- The rows; the text in the second column has a style. -/
  rows : List (String × Piece)
  deriving DecidableEq, Repr

/-- The table of the blocks that were done: the verified ones before the malformed ones. -/
def summary (t : Tally) : Table where
  title := "blockprover run"
  heads := ("Block", "Result")
  rows := t.verified.map (fun n => (toString n, ⟨.green, "verified"⟩)) ++
    t.malformed.map fun n => (toString n, ⟨.red, "malformed"⟩)

end ProofRelay.CommandLine
