import ProofRelay.Text.CodePoints
import ProofRelay.Text.Hex

/-!
# Text as bytes

The UTF-8 form of text.  Encoding is total on characters, while half of a surrogate pair has no
bytes; decoding accepts the well-formed sequences only and names the first bytes that are not part
of one, with the reason.

## Main definitions

* `Utf8.encode` : the bytes of a text.
* `Utf8.halvesMessage` : the report of halves of surrogate pairs, which have no bytes.
* `Utf8.decode` : the text of well-formed bytes.
* `Utf8.Malformed` : where and why bytes are not well-formed.
-/

namespace ProofRelay.Text.Utf8

/-- Why bytes are not the form of a character. -/
inductive Reason where
  /-- A byte that begins no character. -/
  | invalidStart
  /-- A byte that cannot follow the ones before it. -/
  | invalidContinuation
  /-- The bytes end inside a character. -/
  | unexpectedEnd
  deriving DecidableEq, Repr

/-- Where bytes are not well-formed: the positions from `start` up to but not including `stop`,
the first byte among them, and the reason. -/
structure Malformed where
  /-- The position of the first offending byte. -/
  start : Nat
  /-- The position after the last offending byte. -/
  stop : Nat
  /-- The first offending byte. -/
  byte : UInt8
  /-- What is wrong with them. -/
  reason : Reason
  deriving DecidableEq, Repr

/-- The words for a reason. -/
def Reason.text : Reason → String
  | .invalidStart => "invalid start byte"
  | .invalidContinuation => "invalid continuation byte"
  | .unexpectedEnd => "unexpected end of data"

/-- The report of malformed bytes: a single one is named by its value, several by their
positions. -/
def Malformed.message (e : Malformed) : String :=
  let where_ :=
    if e.stop == e.start + 1 then
      "byte 0x" ++ String.ofList (fixedHex 2 e.byte.toNat) ++ " in position " ++ toString e.start
    else
      "bytes in position " ++ toString e.start ++ "-" ++ toString (e.stop - 1)
  "'utf-8' codec can't decode " ++ where_ ++ ": " ++ e.reason.text

/-! ### Encoding -/

/-- The bytes of a character. -/
def encodeChar (c : Char) : List UInt8 :=
  let n := c.toNat
  if n < 0x80 then [n.toUInt8]
  else if n < 0x800 then [(0xc0 + n / 0x40).toUInt8, (0x80 + n % 0x40).toUInt8]
  else if n < 0x10000 then
    [(0xe0 + n / 0x1000).toUInt8, (0x80 + n / 0x40 % 0x40).toUInt8, (0x80 + n % 0x40).toUInt8]
  else
    [(0xf0 + n / 0x40000).toUInt8, (0x80 + n / 0x1000 % 0x40).toUInt8,
      (0x80 + n / 0x40 % 0x40).toUInt8, (0x80 + n % 0x40).toUInt8]

/-- The bytes of a text. -/
def encode (s : List Char) : List UInt8 :=
  s.flatMap encodeChar

/-- The report of code points with halves of surrogate pairs among them that have no bytes: the
first of them is named by its position with the halves behind it, and a single one also by its
number. -/
def halvesMessage (isLost : Nat → Bool) (ps : List Nat) : String :=
  let start := (ps.takeWhile fun n => !isLost n).length
  let place :=
    match (ps.drop start).takeWhile isHalf with
    | [n] => "character '\\u" ++ String.ofList (fixedHex 4 n) ++ "' in position " ++ toString start
    | run => "characters in position " ++ toString start ++ "-" ++
        toString (start + run.length - 1)
  "'utf-8' codec can't encode " ++ place ++ ": surrogates not allowed"

/-! ### Decoding -/

/-- Whether a byte may stand after the first byte of a character. -/
def isTail (b : UInt8) : Bool :=
  0x80 ≤ b && b ≤ 0xbf

/-- Whether a byte may be the second one after a first byte of a character of three bytes or
more: it must not write a character that a shorter form has, a surrogate, or one past the last
code point. -/
def isSecond (first b : UInt8) : Bool :=
  isTail b &&
    if first == 0xe0 then 0xa0 ≤ b
    else if first == 0xed then b < 0xa0
    else if first == 0xf0 then 0x90 ≤ b
    else if first == 0xf4 then b < 0x90
    else true

/-- The low bits of a byte after the first. -/
def low (b : UInt8) : Nat :=
  b.toNat % 0x40

/-- The text of well-formed bytes, the first of which stands at the position `i`; the first
bytes that are not part of a character are an error. -/
def decodeFrom : Nat → List UInt8 → Except Malformed (List Char)
  | _, [] => .ok []
  | i, a :: s =>
    if a < 0x80 then (decodeFrom (i + 1) s).map (Char.ofNat a.toNat :: ·)
    else if a < 0xc2 then .error ⟨i, i + 1, a, .invalidStart⟩
    else if a < 0xe0 then
      match s with
      | [] => .error ⟨i, i + 1, a, .unexpectedEnd⟩
      | b :: s =>
        if !isTail b then .error ⟨i, i + 1, a, .invalidContinuation⟩
        else
          (decodeFrom (i + 2) s).map (Char.ofNat (a.toNat % 0x20 * 0x40 + low b) :: ·)
    else if a < 0xf0 then
      match s with
      | [] => .error ⟨i, i + 1, a, .unexpectedEnd⟩
      | [b] =>
        if !isSecond a b then .error ⟨i, i + 1, a, .invalidContinuation⟩
        else .error ⟨i, i + 2, a, .unexpectedEnd⟩
      | b :: c :: s =>
        if !isSecond a b then .error ⟨i, i + 1, a, .invalidContinuation⟩
        else if !isTail c then .error ⟨i, i + 2, a, .invalidContinuation⟩
        else
          (decodeFrom (i + 3) s).map
            (Char.ofNat (a.toNat % 0x10 * 0x1000 + low b * 0x40 + low c) :: ·)
    else if a < 0xf5 then
      match s with
      | [] => .error ⟨i, i + 1, a, .unexpectedEnd⟩
      | [b] =>
        if !isSecond a b then .error ⟨i, i + 1, a, .invalidContinuation⟩
        else .error ⟨i, i + 2, a, .unexpectedEnd⟩
      | [b, c] =>
        if !isSecond a b then .error ⟨i, i + 1, a, .invalidContinuation⟩
        else if !isTail c then .error ⟨i, i + 2, a, .invalidContinuation⟩
        else .error ⟨i, i + 3, a, .unexpectedEnd⟩
      | b :: c :: d :: s =>
        if !isSecond a b then .error ⟨i, i + 1, a, .invalidContinuation⟩
        else if !isTail c then .error ⟨i, i + 2, a, .invalidContinuation⟩
        else if !isTail d then .error ⟨i, i + 3, a, .invalidContinuation⟩
        else
          (decodeFrom (i + 4) s).map
            (Char.ofNat (a.toNat % 8 * 0x40000 + low b * 0x1000 + low c * 0x40 + low d) :: ·)
    else .error ⟨i, i + 1, a, .invalidStart⟩

/-- The text of well-formed bytes. -/
def decode (bytes : List UInt8) : Except Malformed (List Char) :=
  decodeFrom 0 bytes

/-- The bytes of a string. -/
def ofString (s : String) : List UInt8 :=
  encode s.toList

/-- The string of well-formed bytes. -/
def toString? (bytes : List UInt8) : Except Malformed String :=
  (decode bytes).map String.ofList

end ProofRelay.Text.Utf8
