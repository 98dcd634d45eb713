/-!
# Styled text

Text for a terminal may hold control sequences that colour it or move the cursor.  A sequence is
the escape character and an opening bracket, then parameters, then marks between them and the
end, and one final character.  Where nobody looks at a terminal, the sequences are left out.

A line of a drawing is made of pieces of text, each in a style; what is seen of the styles depends
on what the terminal shows.

## Main definitions

* `Styling.sequenceLength` : the length of the sequence that a text begins with.
* `plain` : a text without its control sequences.
* `Style`, `Palette` : the styles, and what a terminal shows of them.
* `Piece` : a text in a style.
* `cropped` : the pieces of a line as far as they fit.

## Main results

* `plain_eq_self` : a text without the escape character stays as it is.
-/

namespace ProofRelay.Text

namespace Styling

/-- The escape character. -/
def escape : Char := '\x1b'

/-- The characters of a parameter. -/
def isParameter (c : Char) : Bool :=
  0x30 ≤ c.toNat && c.toNat ≤ 0x3f

/-- The marks between the parameters and the end. -/
def isBetween (c : Char) : Bool :=
  0x20 ≤ c.toNat && c.toNat ≤ 0x2f

/-- The characters that end a sequence. -/
def isFinal (c : Char) : Bool :=
  0x40 ≤ c.toNat && c.toNat ≤ 0x7e

/-- The length of the control sequence that a text begins with, or zero if it begins with none. -/
def sequenceLength : List Char → Nat
  | c :: '[' :: s =>
    let parameters := s.takeWhile isParameter
    let rest := s.dropWhile isParameter
    let between := rest.takeWhile isBetween
    match rest.dropWhile isBetween with
    | final :: _ =>
      if c = escape ∧ isFinal final then parameters.length + between.length + 3 else 0
    | [] => 0
  | _ => 0

/-- Characters without the control sequences among them, where the first `left` characters are
what is left of a sequence. -/
def plainFrom : Nat → List Char → List Char
  | _, [] => []
  | left + 1, _ :: s => plainFrom left s
  | 0, c :: s =>
    match sequenceLength (c :: s) with
    | 0 => c :: plainFrom 0 s
    | left + 1 => plainFrom left s

/-- A text that begins with another character begins with no sequence. -/
theorem sequenceLength_of_ne {c : Char} (s : List Char) (h : c ≠ escape) :
    sequenceLength (c :: s) = 0 := by
  unfold sequenceLength
  split
  · next heq =>
    injection heq with heq
    subst heq
    dsimp only
    split <;> simp [h]
  · rfl

/-- Characters without the escape character stay as they are. -/
theorem plainFrom_eq_self {s : List Char} (h : escape ∉ s) : plainFrom 0 s = s := by
  induction s with
  | nil => rfl
  | cons c s ih =>
    simp only [List.mem_cons, not_or] at h
    simp [plainFrom, sequenceLength_of_ne s (Ne.symm h.1), ih h.2]

end Styling

/-- A text without its control sequences. -/
def plain (s : String) : String :=
  String.ofList (Styling.plainFrom 0 s.toList)

/-- A text without the escape character stays as it is. -/
theorem plain_eq_self {s : String} (h : Styling.escape ∉ s.toList) : plain s = s := by
  rw [plain, Styling.plainFrom_eq_self h, String.ofList_toList]

/-! ### Pieces of a drawing -/

/-- The styles of a text. -/
inductive Style where
  /-- The usual style. -/
  | usual
  /-- Heavy letters. -/
  | bold
  /-- Slanted letters. -/
  | italic
  /-- Green letters. -/
  | green
  /-- Red letters. -/
  | red
  deriving DecidableEq, Repr

/-- What a terminal shows of styles. -/
inductive Palette where
  /-- The text alone. -/
  | textOnly
  /-- Heavy and slanted letters, but no colours. -/
  | colourless
  /-- All styles. -/
  | coloured
  deriving DecidableEq, Repr

/-- The parameter of the sequence that begins a style, where the style is shown. -/
def Palette.parameter? (p : Palette) (s : Style) : Option String :=
  match p, s with
  | .textOnly, _ => none
  | _, .usual => none
  | _, .bold => some "1"
  | _, .italic => some "3"
  | .colourless, _ => none
  | .coloured, .green => some "32"
  | .coloured, .red => some "31"

/-- A text in a style. -/
structure Piece where
  /-- The style. -/
  style : Style
  /-- The text. -/
  text : String
  deriving DecidableEq, Repr

/-- What a terminal is sent for a piece: the text between a sequence that begins the style and one
that ends it.  Nothing is sent for an empty text. -/
def Piece.shown (p : Palette) (x : Piece) : String :=
  if x.text.isEmpty then ""
  else
    match p.parameter? x.style with
    | some n => "\x1b[" ++ n ++ "m" ++ x.text ++ "\x1b[0m"
    | none => x.text

/-- The pieces of a line as far as they fit into a number of columns. -/
def cropped : Nat → List Piece → List Piece
  | _, [] => []
  | room, x :: xs =>
    ⟨x.style, String.ofList (x.text.toList.take room)⟩ :: cropped (room - x.text.length) xs

end ProofRelay.Text
