import ProofRelay.CommandLine.Screen
import ProofRelay.CommandLine.Summary
import ProofRelay.Text.Folding

/-!
# Drawing a table

A table is drawn with a frame under its title.  A column is as wide as its widest text.  If the
table is then wider than the screen, its columns are made narrower, the wider one first, and texts
that no longer fit are cut short.  On a screen that is narrower than the frame the lines themselves
are cut.

## Main definitions

* `TableWidths.within` : the widths of the columns on a screen.
* `Table.lines` : the lines of a table.
* `Table.drawnOn` : what is sent to the screen for it.
* `Screen.draw` : a table on the screen of an environment.
-/

namespace ProofRelay.CommandLine

open ProofRelay.Text

/-! ### Texts in columns -/

/-- A text with blanks before it. -/
def alignedRight (width : Nat) (s : String) : String :=
  blanks (width - s.length) ++ s

/-- A text with blanks behind it. -/
def alignedLeft (width : Nat) (s : String) : String :=
  s ++ blanks (width - s.length)

/-- A text with blanks on both sides, of which the right side has the odd one. -/
def centred (width : Nat) (s : String) : String :=
  alignedLeft width (alignedRight ((width - s.length) / 2 + s.length) s)

/-- A text that ends with an ellipsis if it does not fit. -/
def clipped (width : Nat) (s : String) : String :=
  if s.length ≤ width then s
  else String.ofList (s.toList.take (width - 1)) ++ "…"

/-- The pieces of a text between blanks in a column, and all of a style but what the text says
otherwise; a column without room for a text is blank. -/
def cell (style : Style) (width : Nat) (text : Nat → List Piece) : List Piece :=
  if width ≤ 2 then [⟨style, blanks width⟩]
  else ⟨style, " "⟩ :: (text (width - 2) ++ [⟨style, " "⟩])

/-- A text of a style at the right of a column. -/
def atRight (style : Style) (s : String) (width : Nat) : List Piece :=
  [⟨style, alignedRight width (clipped width s)⟩]

/-- A text of a style at the left of a column. -/
def atLeft (style : Style) (s : String) (width : Nat) : List Piece :=
  [⟨style, alignedLeft width (clipped width s)⟩]

/-- A text of a style at the left of a column, where the blanks behind it have the usual style. -/
def marked (x : Piece) (width : Nat) : List Piece :=
  let text := clipped width x.text
  [⟨x.style, text⟩, ⟨.usual, blanks (width - text.length)⟩]

/-! ### Widths -/

/-- The widths of the two columns of a table, with the blanks beside the texts. -/
structure TableWidths where
  /-- The width of the first column. -/
  first : Nat
  /-- The width of the second one. -/
  second : Nat

namespace TableWidths

/-- The columns that the lines of the frame take. -/
def frame : Nat := 3

/-- The widths that the texts of a table need. -/
def of (t : Table) : TableWidths :=
  let widest := fun (head : String) (xs : List String) =>
    xs.foldl (fun n s => max n s.length) head.length
  ⟨widest t.heads.1 (t.rows.map (·.1)) + 2, widest t.heads.2 (t.rows.map (·.2.text)) + 2⟩

/-- Two columns of one width that give up some columns together: half of them each, where the odd
one is shared out so that the first part is even. -/
def halved (width excess : Nat) : TableWidths :=
  let first := if excess % 4 = 3 then excess / 2 + 1 else excess / 2
  ⟨width - first, width - (excess - first)⟩

/-- The widths that fit into some room: the wider column gives up columns until it is as wide as
the other one, and then both do. -/
def shrunk (room : Nat) (w : TableWidths) : TableWidths :=
  let excess := w.first + w.second - room
  if w.second + excess ≤ w.first then ⟨w.first - excess, w.second⟩
  else if w.first + excess ≤ w.second then ⟨w.first, w.second - excess⟩
  else
    let narrower := min w.first w.second
    halved narrower (2 * narrower - room)

/-- The widths in which the table fits on a screen.  No column is wider than the room between the
lines of the frame. -/
def within (screen : Nat) (w : TableWidths) : TableWidths :=
  let room := screen - frame
  shrunk room ⟨min w.first room, min w.second room⟩

/-- The width of the table. -/
def total (w : TableWidths) : Nat :=
  w.first + w.second + frame

/-- Whether a column has room for a text. -/
def hasTexts (w : TableWidths) : Bool :=
  2 < w.first || 2 < w.second

/-- A line of the frame. -/
def rule (w : TableWidths) (left bar middle right : Char) : List Piece :=
  [⟨.usual, String.ofList ([left] ++ List.replicate w.first bar ++ [middle] ++
    List.replicate w.second bar ++ [right])⟩]

/-- A line with texts; it has a style of its own if there is room for a text. -/
def row (w : TableWidths) (style : Style) (bar : String) (first second : Nat → List Piece) :
    List Piece :=
  let style := if w.hasTexts then style else .usual
  [⟨.usual, bar⟩] ++ cell style w.first first ++ [⟨.usual, bar⟩] ++
    cell style w.second second ++ [⟨.usual, bar⟩]

end TableWidths

/-! ### The table -/

namespace Table

/-- The lines of a table. -/
def lines (screen : Nat) (t : Table) : List (List Piece) :=
  let w := (TableWidths.of t).within screen
  let lines := (folded w.total t.title).map (fun s => [⟨.italic, centred w.total s⟩]) ++
    [w.rule '┏' '━' '┳' '┓', w.row .bold "┃" (atRight .bold t.heads.1) (atLeft .bold t.heads.2),
      w.rule '┡' '━' '╇' '┩'] ++
    t.rows.map (fun r => w.row .usual "│" (atRight .usual r.1) (marked r.2)) ++
    [w.rule '└' '─' '┴' '┘']
  lines.map (cropped screen)

/-- What is sent to the screen for a table; there is nothing to send to a screen without columns. -/
def drawnOn (c : Canvas) (t : Table) : List String :=
  if c.columns = 0 then []
  else (t.lines c.columns).map fun line => String.join (line.map (·.shown c.palette))

end Table

/-- A table on the screen of an environment. -/
def Screen.draw (environment : List (String × String)) (t : Table) : Except Fault (List String) :=
  return t.drawnOn (← canvas environment)

end ProofRelay.CommandLine
