/-!
# Blank characters

The characters that count as blank when text is trimmed: the white space of the Unicode
standard together with the four information separators of ASCII.  Tool output, payloads and
configured values are all trimmed with this one class.

## Main definitions

* `isBlank` : the class itself.
* `trimStart`, `trimEnd`, `trim` : text without its blank ends.

## Main results

* `trimStart_eq_nil_iff` : trimming leaves nothing exactly of blank text.
* `trim_append` : trimming takes blank ends away, and no more than that.
-/

namespace ProofRelay.Text

/-- The code points between which the blank characters lie, both ends included. -/
def blankRanges : List (Nat × Nat) :=
  [(0x09, 0x0d), (0x1c, 0x20), (0x85, 0x85), (0xa0, 0xa0), (0x1680, 0x1680), (0x2000, 0x200a),
    (0x2028, 0x2029), (0x202f, 0x202f), (0x205f, 0x205f), (0x3000, 0x3000)]

/-- Whether a character is blank. -/
def isBlank (c : Char) : Bool :=
  blankRanges.any fun r => r.1 ≤ c.toNat && c.toNat ≤ r.2

/-! ### Trimming lists of characters -/

/-- Text without the blank characters that it begins with. -/
def trimStart (s : List Char) : List Char :=
  s.dropWhile isBlank

/-- Text without the blank characters that it ends with. -/
def trimEnd (s : List Char) : List Char :=
  (trimStart s.reverse).reverse

/-- Text without the blank characters at both of its ends. -/
def trim (s : List Char) : List Char :=
  trimEnd (trimStart s)

@[simp] theorem trimStart_nil : trimStart [] = [] := rfl

theorem trimStart_cons (c : Char) (s : List Char) :
    trimStart (c :: s) = if isBlank c then trimStart s else c :: s := by
  simp only [trimStart, List.dropWhile_cons]

/-- Trimming leaves nothing exactly of blank text. -/
theorem trimStart_eq_nil_iff (s : List Char) : trimStart s = [] ↔ ∀ c ∈ s, isBlank c = true := by
  induction s with
  | nil => simp
  | cons c s ih => cases h : isBlank c <;> simp [trimStart_cons, h, ih]

/-- Text that begins with a blank character is trimmed as the text after it. -/
theorem trimStart_of_isBlank {c : Char} (s : List Char) (h : isBlank c = true) :
    trimStart (c :: s) = trimStart s := by
  simp [trimStart_cons, h]

/-- Text that begins with another character keeps all of its start. -/
theorem trimStart_of_not_isBlank {c : Char} (s : List Char) (h : isBlank c = false) :
    trimStart (c :: s) = c :: s := by
  simp [trimStart_cons, h]

/-- Blank text in front is trimmed, up to a character that is not blank. -/
theorem trimStart_append {before : List Char} (blank : ∀ c ∈ before, isBlank c = true) {c : Char}
    (first : isBlank c = false) (s : List Char) : trimStart (before ++ c :: s) = c :: s := by
  rw [trimStart, List.dropWhile_append_of_pos blank]
  exact trimStart_of_not_isBlank s first

/-- Trimming takes blank ends away, and no more than that. -/
theorem trim_append {before s after : List Char} (blank : ∀ c ∈ before, isBlank c = true)
    (blank' : ∀ c ∈ after, isBlank c = true) {c d : Char} (first : isBlank c = false)
    (last : isBlank d = false) (starts : ∃ t, s = c :: t) (ends : ∃ t, s = t ++ [d]) :
    trim (before ++ (s ++ after)) = s := by
  have kept : trimStart (before ++ (s ++ after)) = s ++ after := by
    obtain ⟨t, rfl⟩ := starts
    exact trimStart_append blank first _
  have turned : (s ++ after).reverse = after.reverse ++ s.reverse := List.reverse_append
  have cut : trimStart (after.reverse ++ s.reverse) = s.reverse := by
    obtain ⟨t, rfl⟩ := ends
    rw [List.reverse_append, List.reverse_singleton, List.singleton_append]
    exact trimStart_append (fun c hc => blank' c (List.mem_reverse.mp hc)) last _
  rw [trim, kept, trimEnd, turned, cut, List.reverse_reverse]

/-! ### Trimming strings -/

/-- A string without the blank characters at both of its ends. -/
def trimmed (s : String) : String :=
  String.ofList (trim s.toList)

/-- A string without the blank characters that it ends with. -/
def trimmedEnd (s : String) : String :=
  String.ofList (trimEnd s.toList)

/-- Whether a string holds blank characters only. -/
def isBlankText (s : String) : Bool :=
  s.toList.all isBlank

/-- A string that is there and not empty. -/
def present (s : Option String) : Option String :=
  s.filter (· ≠ "")

/-- A string without its ends that satisfy a predicate on the right. -/
def dropEndWhile (p : Char → Bool) (s : String) : String :=
  String.ofList (s.toList.reverse.dropWhile p).reverse

end ProofRelay.Text
