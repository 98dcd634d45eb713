import ProofRelay.Text.Blank

/-!
# Folding text into lines

Text is folded into lines of a given width.  A line may end at blanks, which are then left out, and
behind a hyphen between letters.  Every line takes as much as fits; a word that is wider than a
whole line is broken where the line ends.

## Main definitions

* `broken` : the parts of a text that have a given length.
* `chunks` : the parts of a text between which a line may end.
* `folded` : the lines of a text.
-/

namespace ProofRelay.Text

/-! ### Parts of a given length -/

/-- The parts of a text that have a given length, but for the last one; the length has to be
positive. -/
def broken (width : Nat) (s : List Char) : List (List Char) :=
  if _h : 0 < width ∧ width < s.length then s.take width :: broken width (s.drop width)
  else [s]
termination_by s.length
decreasing_by simp only [List.length_drop]; omega

/-! ### Chunks -/

/-- Whether a line may end between the characters before a place, the last one first, and the ones
behind it: at the ends of blanks, and behind a hyphen between letters. -/
def mayEnd (before after : List Char) : Bool :=
  match before, after with
  | '-' :: y :: x :: _, c :: d :: _ => x.isAlpha && y.isAlpha && c.isAlpha && d.isAlpha || c == ' '
  | b :: _, a :: _ => (b == ' ') != (a == ' ')
  | _, _ => false

/-- The chunks of a text, of the first of which some characters were read, the last one first. -/
def chunksFrom : List Char → List Char → List (List Char)
  | current, [] => if current.isEmpty then [] else [current.reverse]
  | current, c :: s =>
    if mayEnd current (c :: s) then current.reverse :: chunksFrom [c] s
    else chunksFrom (c :: current) s

/-- The parts of a text between which a line may end. -/
def chunks (s : List Char) : List (List Char) :=
  chunksFrom [] s

/-! ### Lines -/

/-- A finished line, which is left out if there is nothing on it. -/
def finished (line : List Char) : List (List Char) :=
  if (trimEnd line).isEmpty then [] else [trimEnd line]

/-- The lines of chunks, of the first of which the beginning is given. -/
def foldedFrom (width : Nat) : List Char → List (List Char) → List (List Char)
  | line, [] => finished line
  | line, p :: ps =>
    if line.length + p.length ≤ width then foldedFrom width (line ++ p) ps
    else if width < p.length then
      let space := max (width - line.length) 1
      let parts := broken width (p.drop space)
      (line ++ p.take space) :: parts.dropLast ++ foldedFrom width (parts.getLastD []) ps
    else finished line ++ foldedFrom width (trimStart p) ps

/-- The lines of a text that have at most a given width. -/
def folded (width : Nat) (s : String) : List String :=
  (foldedFrom width [] (chunks s.toList)).map String.ofList

/-! ### Blanks -/

/-- A text of some blanks, which fills a line up. -/
def blanks (n : Nat) : String :=
  String.ofList (List.replicate n ' ')

end ProofRelay.Text
