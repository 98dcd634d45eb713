import ProofRelay.Text.Hex
import ProofRelay.Text.Utf8

/-!
# Percent encoding

The key of an object inside a URL.  Letters, digits, the four unreserved marks and the slash
stand for themselves; every other character is written as its UTF-8 bytes, each as a percent
sign and two hexadecimal digits.

## Main definitions

* `Percent.encode` : a key as part of a URL.
* `Percent.decodeBytes?` : the bytes that part of a URL stands for.
-/

namespace ProofRelay.Text.Percent

/-- Whether a byte stands for itself. -/
def isPlain (b : UInt8) : Bool :=
  let c := Char.ofNat b.toNat
  b < 0x80 && (c.isAlphanum || c == '_' || c == '.' || c == '-' || c == '~' || c == '/')

/-- How a byte is written. -/
def encodeByte (b : UInt8) : List Char :=
  if isPlain b then [Char.ofNat b.toNat]
  else ['%', upperHexDigit (b.toNat / 16), upperHexDigit (b.toNat % 16)]

/-- A key as part of a URL. -/
def encode (key : List Char) : List Char :=
  (Utf8.encode key).flatMap encodeByte

/-- The bytes that part of a URL stands for: a percent sign and two digits for a byte, anything
else for its own bytes. -/
def decodeBytes? : List Char → Option (List UInt8)
  | [] => some []
  | '%' :: a :: b :: s => do
    let high ← hexValue? a
    let low ← hexValue? b
    let rest ← decodeBytes? s
    return (16 * high + low).toUInt8 :: rest
  | c :: s => if c = '%' then none else (decodeBytes? s).map (Utf8.encodeChar c ++ ·)

end ProofRelay.Text.Percent
