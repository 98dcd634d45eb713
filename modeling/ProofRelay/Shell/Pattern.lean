/-!
# Patterns

A pattern describes texts: an asterisk stands for any text, a question mark for one character,
and characters between brackets for one of them.  Quoted characters stand for themselves.

## Main definitions

* `PatternItem` : a part of a pattern.
* `patternOf` : the pattern that characters write.
* `fits` : whether a text fits a pattern.
-/

namespace ProofRelay.Shell

/-- A character, and whether it is quoted. -/
abbrev QuotedChar := Char × Bool

/-- A part of a pattern. -/
inductive PatternItem where
  /-- A character. -/
  | one (c : Char)
  /-- Any character. -/
  | any
  /-- Any text. -/
  | many
  /-- A character from ranges, or one from none of them. -/
  | set (negated : Bool) (ranges : List (Char × Char))
  deriving DecidableEq, Repr

/-- The ranges that the text between brackets writes. -/
def rangesOf : List Char → List (Char × Char)
  | a :: '-' :: b :: s => (a, b) :: rangesOf s
  | a :: s => (a, a) :: rangesOf s
  | [] => []

/-- The text between brackets, whose first character may be a closing one, and the rest. -/
def bracketed (s : List QuotedChar) : Option (Bool × List Char × List QuotedChar) :=
  let (negated, s) := match s with
    | ('!', false) :: t => (true, t)
    | t => (false, t)
  match s with
  | [] => none
  | (c, _) :: t =>
    let isEnd := fun (q : QuotedChar) => q.1 == ']' && !q.2
    match t.dropWhile fun q => !isEnd q with
    | _ :: rest => some (negated, c :: (t.takeWhile fun q => !isEnd q).map (·.1), rest)
    | [] => none

/-- The pattern that characters write; the count bounds the number of its parts. -/
def patternWithin : Nat → List QuotedChar → List PatternItem
  | 0, _ => []
  | _, [] => []
  | n + 1, (c, true) :: s => .one c :: patternWithin n s
  | n + 1, ('*', false) :: s => .many :: patternWithin n s
  | n + 1, ('?', false) :: s => .any :: patternWithin n s
  | n + 1, ('[', false) :: s =>
    match bracketed s with
    | some (negated, inside, rest) => .set negated (rangesOf inside) :: patternWithin n rest
    | none => .one '[' :: patternWithin n s
  | n + 1, (c, false) :: s => .one c :: patternWithin n s

/-- The pattern that characters write. -/
def patternOf (s : List QuotedChar) : List PatternItem :=
  patternWithin (s.length + 1) s

/-- Whether a pattern has a part that is no character. -/
def isOpen (p : List PatternItem) : Bool :=
  p.any fun
    | .one _ => false
    | _ => true

/-- Whether a text fits a pattern. -/
def fits : List PatternItem → List Char → Bool
  | [], s => s.isEmpty
  | .many :: p, [] => fits p []
  | .many :: p, c :: s => fits p (c :: s) || fits (.many :: p) s
  | .one d :: p, c :: s => c == d && fits p s
  | .any :: p, _ :: s => fits p s
  | .set negated ranges :: p, c :: s =>
    (ranges.any fun r => r.1 ≤ c && c ≤ r.2) != negated && fits p s
  | _ :: _, [] => false
termination_by p s => p.length + s.length

/-- The text without the shortest or longest start that fits a pattern. -/
def withoutStart (longest : Bool) (p : List PatternItem) (s : List Char) : List Char :=
  let sizes := (List.range (s.length + 1)).filter fun n => fits p (s.take n)
  match if longest then sizes.getLast? else sizes.head? with
  | some n => s.drop n
  | none => s

/-- The text without the shortest or longest end that fits a pattern. -/
def withoutEnd (longest : Bool) (p : List PatternItem) (s : List Char) : List Char :=
  let sizes := (List.range (s.length + 1)).filter fun n => fits p (s.drop n)
  match if longest then sizes.head? else sizes.getLast? with
  | some n => s.take n
  | none => s

end ProofRelay.Shell
