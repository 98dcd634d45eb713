/-!
# Hexadecimal digits

Numbers written with a fixed count of hexadecimal digits, and the value of such a digit.

## Main definitions

* `hexDigit` : the lower-case digit of a value below sixteen.
* `fixedHex` : a number with a fixed count of digits.
* `hexValue?` : the value of a digit of either case.

## Main results

* `hexValue?_hexDigit` : a digit reads back as its value.
-/

namespace ProofRelay.Text

/-- The lower-case hexadecimal digit of a value below sixteen. -/
def hexDigit (n : Nat) : Char :=
  if n < 10 then Char.ofNat (n + 48) else Char.ofNat (n + 87)

/-- The upper-case hexadecimal digit of a value below sixteen. -/
def upperHexDigit (n : Nat) : Char :=
  if n < 10 then Char.ofNat (n + 48) else Char.ofNat (n + 55)

/-- The last `width` hexadecimal digits of a number, the most significant first. -/
def fixedHex : Nat → Nat → List Char
  | 0, _ => []
  | width + 1, n => fixedHex width (n / 16) ++ [hexDigit (n % 16)]

/-- The value of a hexadecimal digit of either case. -/
def hexValue? (c : Char) : Option Nat :=
  if '0' ≤ c ∧ c ≤ '9' then some (c.toNat - 48)
  else if 'a' ≤ c ∧ c ≤ 'f' then some (c.toNat - 87)
  else if 'A' ≤ c ∧ c ≤ 'F' then some (c.toNat - 55)
  else none

/-- A lower-case digit reads back as its value. -/
theorem hexValue?_hexDigit : ∀ n : Fin 16, hexValue? (hexDigit n) = some n.val := by
  decide

/-- An upper-case digit reads back as its value. -/
theorem hexValue?_upperHexDigit : ∀ n : Fin 16, hexValue? (upperHexDigit n) = some n.val := by
  decide

/-- The number that a list of hexadecimal digits writes, if all of them are digits. -/
def hexNumber? (s : List Char) : Option Nat :=
  s.foldl (fun acc c => acc.bind fun n => (hexValue? c).map (16 * n + ·)) (some 0)

end ProofRelay.Text
