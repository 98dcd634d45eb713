import ProofRelay.Text.Blank

/-!
# Verdicts on a payload

A payload is judged by its first character that is not blank: an opening brace begins a
structured document and verifies the block, any other character makes the payload malformed, and
a payload without one is still pending.

## Main definitions

* `Verdict` : the three verdicts.
* `Verdict.ofChars`, `Verdict.ofPayload` : the verdict on a payload.

## Main results

* `Verdict.ofChars_append` : a verdict stays when the payload grows, and a pending payload
  leaves it to what follows.
-/

namespace ProofRelay

open ProofRelay.Text

/-- A verdict on a payload. -/
inductive Verdict where
  /-- Nothing to judge yet. -/
  | pending
  /-- A structured document. -/
  | verified
  /-- Something else. -/
  | malformed
  deriving DecidableEq, Repr

namespace Verdict

/-- The verdict on the characters of a payload. -/
def ofChars (payload : List Char) : Verdict :=
  match trimStart payload with
  | [] => .pending
  | c :: _ => if c = '\x7b' then .verified else .malformed

/-- The verdict on a payload. -/
def ofPayload (payload : String) : Verdict :=
  ofChars payload.toList

/-- Whether the verdict is final. -/
def isFinal (v : Verdict) : Bool :=
  v != .pending

/-- The word for a verdict. -/
def name : Verdict → String
  | .pending => "pending"
  | .verified => "verified"
  | .malformed => "malformed"

/-- A blank character in front of a payload leaves its verdict. -/
theorem ofChars_of_isBlank {c : Char} (s : List Char) (h : isBlank c = true) :
    ofChars (c :: s) = ofChars s := by
  simp [ofChars, trimStart_of_isBlank _ h]

/-- The first character that is not blank gives the verdict. -/
theorem ofChars_of_not_isBlank {c : Char} (s : List Char) (h : isBlank c = false) :
    ofChars (c :: s) = if c = '\x7b' then .verified else .malformed := by
  simp [ofChars, trimStart_of_not_isBlank _ h]

/-- A verdict stays when the payload grows, and a pending payload leaves it to what follows. -/
theorem ofChars_append (p q : List Char) :
    ofChars (p ++ q) = if ofChars p = .pending then ofChars q else ofChars p := by
  induction p with
  | nil => rfl
  | cons c p ih =>
    rw [List.cons_append]
    cases h : isBlank c with
    | true => rw [ofChars_of_isBlank _ h, ofChars_of_isBlank _ h, ih]
    | false =>
      rw [ofChars_of_not_isBlank _ h, ofChars_of_not_isBlank _ h]
      split <;> simp

end Verdict

end ProofRelay
