/-!
# Code points

Numbered escapes write a text by sixteen-bit code units.  Two halves of a surrogate pair in a row
make one code point; a half that stands alone stays a code point of its own, to which no
character belongs.  Where a text is needed all the same, a private-use character stands in for the
half.

## Main definitions

* `joinHalves` : code points in which the pairs are joined.
* `charOfPoint?` : the character of a code point.
* `charOfPoint`, `pointOfChar` : the character that stands for a code point, and the way back.
* `textOfPoints`, `pointsOfText` : the same for texts.

## Main results

* `joinHalves_of_all_char` : characters stay as they are.
* `textOfPoints_toNat` : the text of the code points of characters.
-/

namespace ProofRelay.Text

/-- Whether a code point is the first half of a surrogate pair. -/
def isHighHalf (n : Nat) : Bool :=
  0xd800 ≤ n && n < 0xdc00

/-- Whether a code point is the second half of a surrogate pair. -/
def isLowHalf (n : Nat) : Bool :=
  0xdc00 ≤ n && n < 0xe000

/-- Whether a code point is half of a surrogate pair. -/
def isHalf (n : Nat) : Bool :=
  0xd800 ≤ n && n < 0xe000

/-- The code point of a surrogate pair. -/
def pairPoint (high low : Nat) : Nat :=
  0x10000 + (high - 0xd800) * 0x400 + (low - 0xdc00)

/-- Code points in which two halves in a row are joined to a pair. -/
def joinHalves : List Nat → List Nat
  | [] => []
  | [n] => [n]
  | n :: m :: ns =>
    if isHighHalf n && isLowHalf m then pairPoint n m :: joinHalves ns
    else n :: joinHalves (m :: ns)

/-- The character of a code point; a half has none. -/
def charOfPoint? (n : Nat) : Option Char :=
  if isHalf n then none else some (Char.ofNat n)

/-- How far behind a half the private-use character is that stands in for it. -/
def standInOffset : Nat := 0x100000

/-- The character that stands for a code point: its own one, or the stand-in of a half. -/
def charOfPoint (n : Nat) : Char :=
  (charOfPoint? n).getD (Char.ofNat (n + standInOffset))

/-- The code point that a character stands for: a half for its stand-in, and its own otherwise. -/
def pointOfChar (c : Char) : Nat :=
  if isHalf (c.toNat - standInOffset) then c.toNat - standInOffset else c.toNat

/-- The text of code points, with a stand-in for every half. -/
def textOfPoints (ps : List Nat) : String :=
  String.ofList (ps.map charOfPoint)

/-- The code points that a text stands for. -/
def pointsOfText (s : String) : List Nat :=
  s.toList.map pointOfChar

/-- No character is a half. -/
theorem isHalf_toNat (c : Char) : isHalf c.toNat = false := by
  have h : c.toNat < 0xd800 ∨ 0xdfff < c.toNat ∧ c.toNat < 0x110000 := c.valid
  simp only [isHalf, Bool.and_eq_false_iff, decide_eq_false_iff_not]
  omega

/-- A first half is a half. -/
theorem isHalf_of_isHighHalf {n : Nat} (h : isHighHalf n = true) : isHalf n = true := by
  simp only [isHighHalf, isHalf, Bool.and_eq_true, decide_eq_true_eq] at *
  omega

/-- Characters stay as they are when pairs are joined. -/
theorem joinHalves_of_all_char (cs : List Char) :
    joinHalves (cs.map Char.toNat) = cs.map Char.toNat := by
  match cs with
  | [] => rfl
  | [c] => rfl
  | c :: d :: cs =>
    have hc : isHighHalf c.toNat = false := by
      cases h : isHighHalf c.toNat with
      | false => rfl
      | true => exact absurd (isHalf_of_isHighHalf h) (by simp [isHalf_toNat])
    have ih := joinHalves_of_all_char (d :: cs)
    simp only [List.map_cons] at ih ⊢
    simp [joinHalves, hc, ih]

/-- The character of a character's code point. -/
@[simp] theorem charOfPoint_toNat (c : Char) : charOfPoint c.toNat = c := by
  simp [charOfPoint, charOfPoint?, isHalf_toNat]

/-- A half has no character. -/
theorem charOfPoint?_of_isHalf {n : Nat} (h : isHalf n = true) : charOfPoint? n = none :=
  if_pos h

/-- The text of the code points of characters. -/
theorem textOfPoints_toNat (s : String) : textOfPoints (s.toList.map Char.toNat) = s := by
  simp [textOfPoints, List.map_map, Function.comp_def]

end ProofRelay.Text
