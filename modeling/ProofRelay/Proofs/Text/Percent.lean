import ProofRelay.Proofs.Text.Utf8
import ProofRelay.Text.Lines
import ProofRelay.Text.Percent

/-!
# Percent encoding is exact

An encoded key is written with plain characters and escapes alone, and it decodes to the key.  The
slash is plain and no other character has its byte, so that cutting a key at its slashes and
encoding it can be done in either order.

## Main definitions

* `Percent.Escaped` : texts of plain characters and escapes.
* `Percent.decode?` : the text that part of a URL stands for.

## Main results

* `Percent.escaped_encode` : what is in an encoded key.
* `Percent.decode?_encode` : an encoded key decodes to the key.
* `Percent.pieces_encode` : the pieces of an encoded key between its slashes.
-/

namespace ProofRelay.Text

/-! ### Pieces of a text that is written over -/

/-- A text without the separator belongs to the first piece of what follows it. -/
theorem pieces_append_of_not_mem {sep : Char} {s : List Char} (h : sep ∉ s) {t p : List Char}
    {ps : List (List Char)} (cut : pieces sep t = p :: ps) :
    pieces sep (s ++ t) = (s ++ p) :: ps := by
  induction s with
  | nil => exact cut
  | cons c s ih =>
    rw [List.mem_cons, not_or] at h
    rw [List.cons_append, pieces, if_neg (Ne.symm h.1), ih h.2]
    rfl

/-- A text may be cut before or after its characters are written over, if the separator stands for
itself and no other character is written with it. -/
theorem pieces_flatMap {sep : Char} {f : Char → List Char} (kept : f sep = [sep])
    (fresh : ∀ c, c ≠ sep → sep ∉ f c) (s : List Char) :
    pieces sep (s.flatMap f) = (pieces sep s).map (·.flatMap f) := by
  induction s with
  | nil => rfl
  | cons c s ih =>
    rw [List.flatMap_cons]
    by_cases h : c = sep
    · subst h
      rw [kept, List.singleton_append, pieces, pieces, if_pos rfl, if_pos rfl, ih]
      rfl
    · obtain ⟨p, ps, cut⟩ := List.exists_cons_of_ne_nil (pieces_ne_nil sep s)
      rw [cut, List.map_cons] at ih
      rw [pieces_append_of_not_mem (fresh c h) ih, pieces, if_neg h, cut]
      rfl

namespace Percent

/-! ### What an encoded key is written with -/

/-- The characters that stand for themselves. -/
def IsPlainChar (c : Char) : Prop :=
  c.isAlphanum = true ∨ c ∈ ['_', '.', '-', '~', '/']

/-- The digits of an escape. -/
def IsEscapeDigit (c : Char) : Prop :=
  c.isDigit = true ∨ 'A' ≤ c ∧ c ≤ 'F'

/-- Texts of plain characters and escapes, each of which is a percent sign and two digits. -/
inductive Escaped : List Char → Prop where
  /-- The empty text. -/
  | nil : Escaped []
  /-- A plain character. -/
  | plain {c : Char} {s : List Char} (h : IsPlainChar c) : Escaped s → Escaped (c :: s)
  /-- An escape. -/
  | escape {a b : Char} {s : List Char} (ha : IsEscapeDigit a) (hb : IsEscapeDigit b) :
    Escaped s → Escaped ('%' :: a :: b :: s)

theorem Escaped.append {s t : List Char} (hs : Escaped s) (ht : Escaped t) : Escaped (s ++ t) := by
  induction hs with
  | nil => exact ht
  | plain h _ ih => exact .plain h ih
  | escape ha hb _ ih => exact .escape ha hb ih

theorem isPlainChar_of_isPlain {b : UInt8} (h : isPlain b = true) :
    IsPlainChar (Char.ofNat b.toNat) := by
  simp only [isPlain, Bool.and_eq_true, Bool.or_eq_true, beq_iff_eq, or_assoc] at h
  obtain ⟨-, h | h⟩ := h
  · exact .inl h
  · exact .inr (by simpa using h)

theorem toNat_lt_of_isPlain {b : UInt8} (h : isPlain b = true) : b.toNat < 0x80 := by
  rw [isPlain, Bool.and_eq_true, decide_eq_true_eq] at h
  exact Utf8.toNat_lt_of_lt h.1 (by decide)

theorem isEscapeDigit_upperHexDigit {n : Nat} (h : n < 16) : IsEscapeDigit (upperHexDigit n) := by
  have digits : ∀ n : Fin 16, (upperHexDigit n).isDigit = true ∨
      'A' ≤ upperHexDigit n ∧ upperHexDigit n ≤ 'F' := by decide
  exact digits ⟨n, h⟩

theorem escaped_encodeByte (b : UInt8) : Escaped (encodeByte b) := by
  have small := b.toNat_lt
  rw [encodeByte]
  split
  · next h => exact .plain (isPlainChar_of_isPlain h) .nil
  · exact .escape (isEscapeDigit_upperHexDigit (by omega)) (isEscapeDigit_upperHexDigit (by omega))
      .nil

/-- An encoded key is written with plain characters and escapes alone. -/
theorem escaped_encode (key : List Char) : Escaped (encode key) := by
  rw [encode]
  induction Utf8.encode key with
  | nil => exact .nil
  | cons b bytes ih => exact (escaped_encodeByte b).append ih

/-! ### Decoding -/

/-- The text that part of a URL stands for, if its bytes are one. -/
def decode? (s : List Char) : Option (List Char) :=
  (decodeBytes? s).bind fun bytes => (Utf8.decode bytes).toOption

theorem decodeBytes?_of_ne {c : Char} (h : c ≠ '%') (s : List Char) :
    decodeBytes? (c :: s) = (decodeBytes? s).map (Utf8.encodeChar c ++ ·) := by
  rw [decodeBytes?.eq_def]
  split
  · next hs => cases hs
  · next hs => exact absurd (List.cons.inj hs).1 h
  · next hs =>
    obtain ⟨rfl, rfl⟩ := List.cons.inj hs
    rw [if_neg h]

/-- The byte that an escape stands for. -/
theorem decodeBytes?_escape (b : UInt8) (s : List Char) :
    decodeBytes? ('%' :: upperHexDigit (b.toNat / 16) :: upperHexDigit (b.toNat % 16) :: s) =
      (decodeBytes? s).map (b :: ·) := by
  have small := b.toNat_lt
  have high := hexValue?_upperHexDigit ⟨b.toNat / 16, by omega⟩
  have low := hexValue?_upperHexDigit ⟨b.toNat % 16, by omega⟩
  have whole : (16 * (b.toNat / 16) + b.toNat % 16).toUInt8 = b := Utf8.toUInt8_eq (by omega)
  rw [decodeBytes?, high, low]
  change ((decodeBytes? s).bind fun rest =>
    some ((16 * (b.toNat / 16) + b.toNat % 16).toUInt8 :: rest)) = _
  rw [whole]
  exact Option.map_eq_bind.symm

/-- An encoded byte stands for the byte. -/
theorem decodeBytes?_encodeByte_append (b : UInt8) (s : List Char) :
    decodeBytes? (encodeByte b ++ s) = (decodeBytes? s).map (b :: ·) := by
  rw [encodeByte]
  split
  · next h =>
    have other : Char.ofNat b.toNat ≠ '%' := by
      intro same
      have plain := isPlainChar_of_isPlain h
      rw [same] at plain
      exact absurd plain (by unfold IsPlainChar; decide)
    rw [List.singleton_append, decodeBytes?_of_ne other,
      Utf8.encodeChar_one (toNat_lt_of_isPlain h)]
    rfl
  · exact decodeBytes?_escape b s

/-- The bytes that an encoded key stands for. -/
theorem decodeBytes?_encode (key : List Char) :
    decodeBytes? (encode key) = some (Utf8.encode key) := by
  rw [encode]
  induction Utf8.encode key with
  | nil => rfl
  | cons b bytes ih => rw [List.flatMap_cons, decodeBytes?_encodeByte_append, ih]; rfl

/-- An encoded key decodes to the key. -/
theorem decode?_encode (key : List Char) : decode? (encode key) = some key := by
  rw [decode?, decodeBytes?_encode, Option.bind_some, Utf8.decode_encode]
  rfl

/-- Different keys are encoded differently. -/
theorem encode_inj {key key' : List Char} (h : encode key = encode key') : key = key' := by
  have both := congrArg decode? h
  rw [decode?_encode, decode?_encode] at both
  exact Option.some.inj both

/-! ### Slashes -/

theorem encode_eq_flatMap (key : List Char) :
    encode key = key.flatMap fun c => (Utf8.encodeChar c).flatMap encodeByte := by
  rw [encode, Utf8.encode, List.flatMap_assoc]

/-- The byte of the slash is the only one that is written with a slash. -/
theorem eq_of_slash_mem_encodeByte {b : UInt8} (h : '/' ∈ encodeByte b) : b = 0x2f := by
  have small := b.toNat_lt
  rw [encodeByte] at h
  split at h
  · next plain =>
    have ascii := toNat_lt_of_isPlain plain
    have code := congrArg Char.toNat (List.mem_singleton.mp h)
    rw [Utf8.toNat_ofNat (n := b.toNat) (.inl (by omega))] at code
    exact UInt8.toNat_inj.mp code.symm
  · have digits : ∀ n : Fin 16, '/' ≠ upperHexDigit n := by decide
    simp only [List.mem_cons, List.not_mem_nil, or_false] at h
    rcases h with h | h | h
    · exact absurd h (by decide)
    · exact absurd h (digits ⟨b.toNat / 16, by omega⟩)
    · exact absurd h (digits ⟨b.toNat % 16, by omega⟩)

/-- The pieces of an encoded key between its slashes are the encoded pieces of the key. -/
theorem pieces_encode (key : List Char) :
    pieces '/' (encode key) = (pieces '/' key).map encode := by
  rw [encode_eq_flatMap, pieces_flatMap (by decide)]
  · exact List.map_congr_left fun p _ => (encode_eq_flatMap p).symm
  · intro c other h
    obtain ⟨b, hb, hs⟩ := List.mem_flatMap.mp h
    obtain rfl := eq_of_slash_mem_encodeByte hs
    exact other (Utf8.eq_of_mem_encodeChar (by decide) hb)

end Percent

end ProofRelay.Text
