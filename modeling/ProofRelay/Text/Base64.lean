/-!
# Base 64

Bytes written with the sixty-four characters of the standard alphabet, three bytes to four
characters, the last group filled up with `=`.  Reading is strict: a foreign character, text
after the padding and an incomplete group are each an error of their own.  Text that ends with
more `=` after a complete group is accepted, which makes reading wider than writing.

## Main definitions

* `Base64.encode` : bytes as text.
* `Base64.decode` : text as bytes.
* `Base64.Refusal` : why text is not accepted.
-/

namespace ProofRelay.Text.Base64

/-- The character that fills up the last group. -/
def pad : Char := '='

/-- The character of a value below sixty-four. -/
def symbol (n : Nat) : Char :=
  if n < 26 then Char.ofNat (n + 65)
  else if n < 52 then Char.ofNat (n + 71)
  else if n < 62 then Char.ofNat (n - 4)
  else if n = 62 then '+'
  else '/'

/-- The value of a character of the alphabet. -/
def value? (c : Char) : Option Nat :=
  if 'A' ≤ c ∧ c ≤ 'Z' then some (c.toNat - 65)
  else if 'a' ≤ c ∧ c ≤ 'z' then some (c.toNat - 71)
  else if '0' ≤ c ∧ c ≤ '9' then some (c.toNat + 4)
  else if c = '+' then some 62
  else if c = '/' then some 63
  else none

/-- A character of the alphabet reads back as its value. -/
theorem value?_symbol : ∀ n : Fin 64, value? (symbol n) = some n.val := by
  decide

/-! ### Writing -/

/-- Bytes as text. -/
def encode : List UInt8 → List Char
  | [] => []
  | [a] => [symbol (a.toNat / 4), symbol (a.toNat % 4 * 16), pad, pad]
  | [a, b] =>
    [symbol (a.toNat / 4), symbol (a.toNat % 4 * 16 + b.toNat / 16), symbol (b.toNat % 16 * 4),
      pad]
  | a :: b :: c :: s =>
    symbol (a.toNat / 4) :: symbol (a.toNat % 4 * 16 + b.toNat / 16) ::
      symbol (b.toNat % 16 * 4 + c.toNat / 64) :: symbol (c.toNat % 64) :: encode s

/-! ### Reading -/

/-- Why text is not accepted. -/
inductive Refusal where
  /-- A character beyond ASCII. -/
  | notAscii
  /-- The text begins with the filling character. -/
  | leadingPadding
  /-- A character outside the alphabet. -/
  | foreignCharacter
  /-- A character of the alphabet after the filling one. -/
  | discontinuousPadding
  /-- Text after a complete last group. -/
  | excessData
  /-- The last group has one character; `count` characters of the alphabet were read. -/
  | loneCharacter (count : Nat)
  /-- The last group is not filled up. -/
  | incorrectPadding
  deriving DecidableEq, Repr

/-- The words for a refusal. -/
def Refusal.message : Refusal → String
  | .notAscii => "string argument should contain only ASCII characters"
  | .leadingPadding => "Leading padding not allowed"
  | .foreignCharacter => "Only base64 data is allowed"
  | .discontinuousPadding => "Discontinuous padding not allowed"
  | .excessData => "Excess data after padding"
  | .loneCharacter n =>
    "Invalid base64-encoded string: number of data characters (" ++ toString n ++
      ") cannot be 1 more than a multiple of 4"
  | .incorrectPadding => "Incorrect padding"

/-- The values read since the last complete group. -/
inductive Group where
  /-- None. -/
  | none
  /-- One value. -/
  | one (a : Nat)
  /-- Two values. -/
  | two (a b : Nat)
  /-- Three values. -/
  | three (a b c : Nat)
  deriving DecidableEq, Repr

/-- The bytes that a group and one more value complete. -/
def Group.bytes : Group → Nat → List UInt8
  | .none, _ => []
  | .one a, v => [(a * 4 + v / 16).toUInt8]
  | .two _ b, v => [(b % 16 * 16 + v / 4).toUInt8]
  | .three _ _ c, v => [(c % 4 * 64 + v).toUInt8]

/-- The group after one more value. -/
def Group.push : Group → Nat → Group
  | .none, v => .one v
  | .one a, v => .two a v
  | .two a b, v => .three a b v
  | .three .., _ => .none

/-- How many values of the group are missing when it has at least two of them. -/
def Group.missing? : Group → Option Nat
  | .two .. => some 2
  | .three .. => some 1
  | _ => Option.none

/-- Reads text behind a group, `pads` filling characters of the last group, whether one was read
at all, and a count of characters of the alphabet. -/
def decodeFrom (g : Group) (pads : Nat) (padded : Bool) (count : Nat) :
    List Char → Except Refusal (List UInt8)
  | [] =>
    match g with
    | .none => .ok []
    | .one _ => .error (.loneCharacter count)
    | _ => .error .incorrectPadding
  | c :: s =>
    if c = pad then
      match g.missing? with
      | some n =>
        if n ≤ pads + 1 then (if s.isEmpty then .ok [] else .error .excessData)
        else decodeFrom g (pads + 1) true count s
      | Option.none => decodeFrom g pads true count s
    else
      match value? c with
      | Option.none => .error .foreignCharacter
      | some v =>
        if padded then .error .discontinuousPadding
        else (decodeFrom (g.push v) 0 padded (count + 1) s).map (g.bytes v ++ ·)

/-- Text as bytes. -/
def decode (s : List Char) : Except Refusal (List UInt8) :=
  if s.any fun c => 0x80 ≤ c.toNat then .error .notAscii
  else if s.head? = some pad then .error .leadingPadding
  else decodeFrom .none 0 false 0 s

end ProofRelay.Text.Base64
