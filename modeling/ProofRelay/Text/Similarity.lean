/-!
# Similar words

How alike two words are, by the text they have in common: the longest common run, and then the
same again on both sides of it.  A mistyped word is answered with the known words that are alike
enough.

## Main definitions

* `Similarity.common` : the count of characters that two words have in common.
* `Similarity.closest` : the known words most like a given one.
-/

namespace ProofRelay.Text.Similarity

/-- The length of the common beginning of two lists. -/
def commonStart : List Char → List Char → Nat
  | a :: s, b :: t => if a = b then commonStart s t + 1 else 0
  | _, _ => 0

/-- The longest common run that begins at the first character of `a`, with its offset in `b`;
of equally long ones the first. -/
def longestAt (a : List Char) : List Char → Nat → Nat × Nat
  | [], j => (0, j)
  | b :: t, j =>
    let here := commonStart a (b :: t)
    let later := longestAt a t (j + 1)
    if here ≥ later.1 then (here, j) else later

/-- The longest common run of two lists as its length and its offsets; of equally long ones the
first in `a`, and of these the first in `b`. -/
def longest (b : List Char) : List Char → Nat → Nat × Nat × Nat
  | [], i => (0, i, 0)
  | a :: s, i =>
    let here := longestAt (a :: s) b 0
    let later := longest b s (i + 1)
    if here.1 ≥ later.1 then (here.1, i, here.2) else later

/-- The count of characters that two words have in common, with a bound on the depth of the
search. -/
def commonWithin : Nat → List Char → List Char → Nat
  | 0, _, _ => 0
  | depth + 1, a, b =>
    match longest b a 0 with
    | (0, _, _) => 0
    | (n, i, j) =>
      commonWithin depth (a.take i) (b.take j) + n +
        commonWithin depth (a.drop (i + n)) (b.drop (j + n))

/-- The count of characters that two words have in common: every step of the search removes at
least one character of the first word, so its length bounds the depth. -/
def common (a b : List Char) : Nat :=
  commonWithin (a.length + 1) a b

/-- A known word and its likeness to another: twice the characters in common over the characters
of both. -/
structure Likeness where
  /-- The known word. -/
  word : String
  /-- Twice the count of characters in common. -/
  shared : Nat
  /-- The count of characters of both words. -/
  total : Nat

/-- The likeness of a known word to another word. -/
def likeness (word known : String) : Likeness :=
  ⟨known, 2 * common known.toList word.toList, known.length + word.length⟩

/-- Whether the likeness is at least three fifths. -/
def Likeness.isClose (l : Likeness) : Bool :=
  3 * l.total ≤ 5 * l.shared

/-- Whether a likeness stands before another: the greater first, and of equal ones the later
word. -/
def Likeness.before (l m : Likeness) : Bool :=
  let a := l.shared * m.total
  let b := m.shared * l.total
  a > b || (a == b && l.word ≥ m.word)

/-- The known words most like a given one, at most three, in alphabetical order. -/
def closest (word : String) (known : List String) : List String :=
  let close := (known.map (likeness word)).filter (·.isClose)
  let best := (close.mergeSort Likeness.before).take 3
  (best.map (·.word)).mergeSort (fun a b => a ≤ b)

end ProofRelay.Text.Similarity
