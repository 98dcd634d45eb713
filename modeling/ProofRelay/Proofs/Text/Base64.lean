import ProofRelay.Proofs.Text.Utf8
import ProofRelay.Text.Base64

/-!
# Base 64 reads back

Three bytes are written with four characters, and reading the four gives the three bytes and leaves
no values over; so what is behind them is read as a text of its own.  The last one or two bytes are
written with two or three characters and filled up, and filling characters that complete a group end
the text.

## Main results

* `Base64.decodeFrom_symbol` : what reading a character of the alphabet does.
* `Base64.decode_encode` : bytes that were written read back.
-/

namespace ProofRelay.Text.Base64

/-! ### Characters of the alphabet -/

theorem symbol_ne_pad : ∀ n : Fin 64, symbol n ≠ pad := by
  decide

theorem toNat_symbol_lt : ∀ n : Fin 64, (symbol n).toNat < 0x80 := by
  decide

/-- A character of the alphabet adds its value to the group, and the bytes that it completes. -/
theorem decodeFrom_symbol (g : Group) (count : Nat) {n : Nat} (small : n < 64) (s : List Char) :
    decodeFrom g 0 false count (symbol n :: s) =
      (decodeFrom (g.push n) 0 false (count + 1) s).map (g.bytes n ++ ·) := by
  have value : value? (symbol n) = some n := value?_symbol ⟨n, small⟩
  have noPad : symbol n ≠ pad := symbol_ne_pad ⟨n, small⟩
  rw [decodeFrom, if_neg noPad, value]
  simp

/-! ### Bytes of a group -/

theorem bytes_one (a : UInt8) {r : Nat} (small : r < 16) :
    (Group.one (a.toNat / 4)).bytes (a.toNat % 4 * 16 + r) = [a] := by
  rw [Group.bytes, Utf8.toUInt8_eq (a := a) (by omega)]

theorem bytes_two (m q : Nat) (b : UInt8) {r : Nat} (small : r < 4) :
    (Group.two m (q * 16 + b.toNat / 16)).bytes (b.toNat % 16 * 4 + r) = [b] := by
  have bound : b.toNat < 256 := b.toNat_lt
  rw [Group.bytes, Utf8.toUInt8_eq (a := b) (by omega)]

theorem bytes_three (m n q : Nat) (c : UInt8) :
    (Group.three m n (q * 4 + c.toNat / 64)).bytes (c.toNat % 64) = [c] := by
  have bound : c.toNat < 256 := c.toNat_lt
  rw [Group.bytes, Utf8.toUInt8_eq (a := c) (by omega)]

/-! ### Whole texts -/

/-- The characters of the first byte of a group and of the half byte behind it. -/
theorem decodeFrom_first (count : Nat) (a : UInt8) {r : Nat} (small : r < 16) (s : List Char) :
    decodeFrom .none 0 false count
        (symbol (a.toNat / 4) :: symbol (a.toNat % 4 * 16 + r) :: s) =
      (decodeFrom (.two (a.toNat / 4) (a.toNat % 4 * 16 + r)) 0 false (count + 2) s).map
        (a :: ·) := by
  have bound : a.toNat < 256 := a.toNat_lt
  rw [decodeFrom_symbol _ _ (by omega), decodeFrom_symbol _ _ (by omega), Group.push, Group.push,
    bytes_one a small]
  cases decodeFrom (.two (a.toNat / 4) (a.toNat % 4 * 16 + r)) 0 false (count + 1 + 1) s <;> rfl

/-- Behind these the character of the second byte and of the quarter of a byte behind it. -/
theorem decodeFrom_second (m q count : Nat) (b : UInt8) {r : Nat} (small : r < 4)
    (s : List Char) :
    decodeFrom (.two m (q * 16 + b.toNat / 16)) 0 false count
        (symbol (b.toNat % 16 * 4 + r) :: s) =
      (decodeFrom (.three m (q * 16 + b.toNat / 16) (b.toNat % 16 * 4 + r)) 0 false (count + 1)
        s).map (b :: ·) := by
  rw [decodeFrom_symbol _ _ (by omega), Group.push, bytes_two m q b small]
  rfl

/-- Three bytes are read, and what is behind them is read as a text of its own. -/
theorem decodeFrom_group (count : Nat) (a b c : UInt8) (s : List Char) :
    decodeFrom .none 0 false count
        (symbol (a.toNat / 4) :: symbol (a.toNat % 4 * 16 + b.toNat / 16) ::
          symbol (b.toNat % 16 * 4 + c.toNat / 64) :: symbol (c.toNat % 64) :: s) =
      (decodeFrom .none 0 false (count + 4) s).map ([a, b, c] ++ ·) := by
  have second : b.toNat < 256 := b.toNat_lt
  have third : c.toNat < 256 := c.toNat_lt
  rw [decodeFrom_first _ _ (by omega), decodeFrom_second _ _ _ _ (by omega),
    decodeFrom_symbol _ _ (by omega), Group.push, bytes_three]
  cases decodeFrom .none 0 false (count + 2 + 1 + 1) s <;> rfl

/-- Bytes that were written are read. -/
theorem decodeFrom_encode (count : Nat) (bytes : List UInt8) :
    decodeFrom .none 0 false count (encode bytes) = .ok bytes := by
  induction bytes using encode.induct generalizing count with
  | case1 => rfl
  | case2 a =>
    show decodeFrom .none 0 false count
      (symbol (a.toNat / 4) :: symbol (a.toNat % 4 * 16 + 0) :: [pad, pad]) = _
    rw [decodeFrom_first _ _ (by omega)]
    rfl
  | case3 a b =>
    have bound : b.toNat < 256 := b.toNat_lt
    show decodeFrom .none 0 false count
      (symbol (a.toNat / 4) :: symbol (a.toNat % 4 * 16 + b.toNat / 16) ::
        symbol (b.toNat % 16 * 4 + 0) :: [pad]) = _
    rw [decodeFrom_first _ _ (by omega), decodeFrom_second _ _ _ _ (by omega)]
    rfl
  | case4 a b c bytes ih =>
    rw [encode, decodeFrom_group, ih]
    rfl

/-- Bytes are written in ASCII. -/
theorem ascii_encode (bytes : List UInt8) : ∀ d ∈ encode bytes, d.toNat < 0x80 := by
  have letter : ∀ n < 64, (symbol n).toNat < 0x80 := fun n small => toNat_symbol_lt ⟨n, small⟩
  have filler : pad.toNat < 0x80 := by decide
  induction bytes using encode.induct with
  | case1 => simp [encode]
  | case2 a =>
    have bound : a.toNat < 256 := a.toNat_lt
    simp (disch := omega) [encode, letter, filler]
  | case3 a b =>
    have bounds : a.toNat < 256 ∧ b.toNat < 256 := ⟨a.toNat_lt, b.toNat_lt⟩
    simp (disch := omega) [encode, letter, filler]
  | case4 a b c bytes ih =>
    have bounds : a.toNat < 256 ∧ b.toNat < 256 ∧ c.toNat < 256 :=
      ⟨a.toNat_lt, b.toNat_lt, c.toNat_lt⟩
    simpa (disch := omega) [encode, letter] using ih

/-- Written bytes do not begin with the filling character. -/
theorem head?_encode_ne (bytes : List UInt8) : (encode bytes).head? ≠ some pad := by
  have first : ∀ a : UInt8, symbol (a.toNat / 4) ≠ pad := by
    intro a
    have bound : a.toNat < 256 := a.toNat_lt
    exact symbol_ne_pad ⟨a.toNat / 4, by omega⟩
  induction bytes using encode.induct <;> simp [encode, first]

/-- Bytes that were written read back. -/
theorem decode_encode (bytes : List UInt8) : decode (encode bytes) = .ok bytes := by
  have ascii : ¬ ((encode bytes).any fun c => 0x80 ≤ c.toNat) = true := by
    simpa using ascii_encode bytes
  rw [decode, if_neg ascii, if_neg (head?_encode_ne bytes), decodeFrom_encode]

end ProofRelay.Text.Base64
