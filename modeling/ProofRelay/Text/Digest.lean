import ProofRelay.Text.Hex

/-!
# Digests

The digest of 256 bits of the secure hash standard.  A message is padded to whole blocks of
sixty-four bytes; every block is spread over sixty-four words, with which a state of eight words is
mixed.  Words wrap at thirty-two bits.

## Main definitions

* `Digest.padded` : a message with its padding.
* `Digest.compress` : the state after a block.
* `Digest.ofBytes` : the digest of a message.
* `Digest.text` : the digest in hexadecimal digits.
-/

namespace ProofRelay.Text.Digest

/-- The words at the start: the first bits behind the point of the square roots of the first eight
primes. -/
def start : List UInt32 :=
  [0x6a09e667, 0xbb67ae85, 0x3c6ef372, 0xa54ff53a, 0x510e527f, 0x9b05688c, 0x1f83d9ab, 0x5be0cd19]

/-- The words of the rounds: the first bits behind the point of the cube roots of the first
sixty-four primes. -/
def rounds : List UInt32 :=
  [0x428a2f98, 0x71374491, 0xb5c0fbcf, 0xe9b5dba5, 0x3956c25b, 0x59f111f1, 0x923f82a4, 0xab1c5ed5,
    0xd807aa98, 0x12835b01, 0x243185be, 0x550c7dc3, 0x72be5d74, 0x80deb1fe, 0x9bdc06a7, 0xc19bf174,
    0xe49b69c1, 0xefbe4786, 0x0fc19dc6, 0x240ca1cc, 0x2de92c6f, 0x4a7484aa, 0x5cb0a9dc, 0x76f988da,
    0x983e5152, 0xa831c66d, 0xb00327c8, 0xbf597fc7, 0xc6e00bf3, 0xd5a79147, 0x06ca6351, 0x14292967,
    0x27b70a85, 0x2e1b2138, 0x4d2c6dfc, 0x53380d13, 0x650a7354, 0x766a0abb, 0x81c2c92e, 0x92722c85,
    0xa2bfe8a1, 0xa81a664b, 0xc24b8b70, 0xc76c51a3, 0xd192e819, 0xd6990624, 0xf40e3585, 0x106aa070,
    0x19a4c116, 0x1e376c08, 0x2748774c, 0x34b0bcb5, 0x391c0cb3, 0x4ed8aa4a, 0x5b9cca4f, 0x682e6ff3,
    0x748f82ee, 0x78a5636f, 0x84c87814, 0x8cc70208, 0x90befffa, 0xa4506ceb, 0xbef9a3f7, 0xc67178f2]

/-- A word turned to the right. -/
def turned (x n : UInt32) : UInt32 :=
  x >>> n ||| x <<< (32 - n)

/-- The bytes of a number, the highest one first. -/
def bytesOf (count n : Nat) : List UInt8 :=
  (List.range count).map fun k => UInt8.ofNat (n >>> (8 * (count - 1 - k)))

/-- The number of zero bytes in the padding of a message. -/
def zeros (size : Nat) : Nat :=
  (119 - size % 64) % 64

/-- A message with its padding: a mark, zeros, and the number of its bits. -/
def padded (message : List UInt8) : List UInt8 :=
  message ++ 128 :: List.replicate (zeros message.length) 0 ++ bytesOf 8 (8 * message.length)

/-- The words of a block. -/
def wordsOf : List UInt8 → List UInt32
  | a :: b :: c :: d :: s =>
    (a.toUInt32 <<< 24 ||| b.toUInt32 <<< 16 ||| c.toUInt32 <<< 8 ||| d.toUInt32) :: wordsOf s
  | _ => []

/-- The next word of a schedule from the sixteen words before it. -/
def nextWord (w : List UInt32) : UInt32 :=
  let a := w[1]?.getD 0
  let b := w[14]?.getD 0
  w[0]?.getD 0 + (turned a 7 ^^^ turned a 18 ^^^ a >>> 3) + w[9]?.getD 0 +
    (turned b 17 ^^^ turned b 19 ^^^ b >>> 10)

/-- The words of a schedule, from a window of sixteen words on. -/
def schedule : Nat → List UInt32 → List UInt32
  | 0, _ => []
  | n + 1, w => w[0]?.getD 0 :: schedule n (w.drop 1 ++ [nextWord w])

/-- One round with a word of the round and one of the schedule. -/
def round (s : List UInt32) (k w : UInt32) : List UInt32 :=
  match s with
  | [a, b, c, d, e, f, g, h] =>
    let x := h + (turned e 6 ^^^ turned e 11 ^^^ turned e 25) + ((e &&& f) ^^^ (~~~e &&& g)) + k + w
    let y := (turned a 2 ^^^ turned a 13 ^^^ turned a 22) +
      ((a &&& b) ^^^ (a &&& c) ^^^ (b &&& c))
    [x + y, a, b, c, d + x, e, f, g]
  | s => s

/-- The state after a block. -/
def compress (s : List UInt32) (block : List UInt8) : List UInt32 :=
  let words := schedule rounds.length (wordsOf block)
  let mixed := (rounds.zip words).foldl (fun s p => round s p.1 p.2) s
  s.zipWith (· + ·) mixed

/-- The state after a number of blocks. -/
def blocks : Nat → List UInt32 → List UInt8 → List UInt32
  | 0, s, _ => s
  | n + 1, s, bytes => blocks n (compress s (bytes.take 64)) (bytes.drop 64)

/-- The digest of a message. -/
def ofBytes (message : List UInt8) : List UInt8 :=
  let bytes := padded message
  (blocks (bytes.length / 64) start bytes).flatMap fun w => bytesOf 4 w.toNat

/-- The digest of a message in hexadecimal digits. -/
def text (message : List UInt8) : String :=
  String.ofList ((ofBytes message).flatMap fun b => fixedHex 2 b.toNat)

end ProofRelay.Text.Digest
