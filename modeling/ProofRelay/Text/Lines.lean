/-!
# Cutting text at a separator

Text is cut at one character into the pieces between its occurrences; the pieces joined again
with that character give the text back.

## Main definitions

* `pieces` : the pieces of a text between the occurrences of a separator.
* `lines` : the pieces at line feeds.
* `joined` : strings written one after the other with a separator between them.

## Main results

* `intercalate_pieces` : the pieces hold the whole text.
* `pieces_ne_nil` : there is always a piece.
-/

namespace ProofRelay.Text

/-- The pieces of a text between the occurrences of a separator; a text without one is a single
piece. -/
def pieces (sep : Char) : List Char → List (List Char)
  | [] => [[]]
  | c :: s =>
    if c = sep then [] :: pieces sep s
    else
      match pieces sep s with
      | [] => [[c]]
      | p :: ps => (c :: p) :: ps

/-- There is always a piece. -/
theorem pieces_ne_nil (sep : Char) (s : List Char) : pieces sep s ≠ [] := by
  cases s with
  | nil => simp [pieces]
  | cons c s =>
    rw [pieces]
    split
    · simp
    · split <;> simp

/-- The pieces joined with the separator are the text. -/
theorem intercalate_pieces (sep : Char) (s : List Char) :
    [sep].intercalate (pieces sep s) = s := by
  induction s with
  | nil => rfl
  | cons c s ih =>
    rw [pieces]
    split
    · next h =>
      subst h
      cases hp : pieces c s with
      | nil => exact absurd hp (pieces_ne_nil c s)
      | cons p ps =>
        rw [hp] at ih
        simpa [List.intercalate, List.intersperse] using ih
    · split
      · next hp => exact absurd hp (pieces_ne_nil sep s)
      · next p ps hp =>
        rw [hp] at ih
        cases ps with
        | nil => simpa [List.intercalate, List.intersperse] using ih
        | cons q qs => simpa [List.intercalate, List.intersperse] using ih

/-- No piece holds the separator. -/
theorem not_mem_of_mem_pieces (sep : Char) (s p : List Char) (h : p ∈ pieces sep s) :
    sep ∉ p := by
  induction s generalizing p with
  | nil => simp_all [pieces]
  | cons c s ih =>
    rw [pieces] at h
    split at h
    · rcases List.mem_cons.1 h with rfl | h
      · simp
      · exact ih p h
    · next hc =>
      split at h
      · next hp => exact absurd hp (pieces_ne_nil sep s)
      · next q qs hp =>
        rcases List.mem_cons.1 h with rfl | h
        · have := ih q (by simp [hp])
          simp [this, Ne.symm hc]
        · exact ih p (by simp [hp, h])

/-- The lines of a text, cut at line feeds and at nothing else. -/
def lines (s : List Char) : List (List Char) :=
  pieces '\n' s

/-- The pieces of a string between the occurrences of a separator. -/
def cutAt (sep : Char) (s : String) : List String :=
  (pieces sep s.toList).map String.ofList

/-- Strings written one after the other with a separator between them. -/
def joined (sep : String) (parts : List String) : String :=
  sep.intercalate parts

end ProofRelay.Text
