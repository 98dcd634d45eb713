import ProofRelay.Text.Utf8

/-!
# Bytes that decode

Decoding accepts one form of each character only, the one that encoding writes.  Bytes that decode
are therefore the bytes of their text, so that a text which was read from bytes is written as the
same bytes.  The other way round, the bytes of every text decode to it, so that bytes which do not
decode are the bytes of no text.

## Main results

* `Utf8.encodeChar_two`, `Utf8.encodeChar_three`, `Utf8.encodeChar_four` : the bytes of a character
  that was read from several bytes.
* `Utf8.encode_of_decode` : the bytes of a text that was decoded.
* `Utf8.decodeFrom_encodeChar` : reading the bytes of a character.
* `Utf8.decode_eq_ok_iff` : the bytes that decode are the bytes of texts.
* `Utf8.exists_of_encode_eq_append` : bytes that begin with those of a text.
* `Utf8.eq_of_mem_encodeChar` : the character of a byte of seven bits.
-/

namespace ProofRelay.Text.Utf8

/-! ### Bytes as numbers -/

variable {a b c d : UInt8}

theorem toNat_lt_of_lt {n : Nat} (h : a < UInt8.ofNat n) (hn : n < 256) : a.toNat < n := by
  rw [UInt8.lt_iff_toNat_lt, UInt8.toNat_ofNat'] at h
  omega

theorem le_toNat_of_not_lt {n : Nat} (h : ¬ a < UInt8.ofNat n) (hn : n < 256) : n ≤ a.toNat := by
  rw [UInt8.lt_iff_toNat_lt, UInt8.toNat_ofNat'] at h
  omega

theorem toUInt8_eq {n : Nat} (h : n = a.toNat) : n.toUInt8 = a := by
  rw [h]
  simp

theorem toNat_of_isTail (h : isTail b = true) : 0x80 ≤ b.toNat ∧ b.toNat < 0xc0 := by
  simp only [isTail, Bool.and_eq_true, decide_eq_true_eq, UInt8.le_iff_toNat_le] at h
  obtain ⟨h₁, h₂⟩ := h
  exact ⟨h₁, Nat.lt_succ_of_le h₂⟩

/-- The code point of a character that is one. -/
theorem toNat_ofNat {n : Nat} (h : n < 0xd800 ∨ 0xdfff < n ∧ n < 0x110000) :
    (Char.ofNat n).toNat = n := by
  have valid : n.isValidChar := by
    simp only [Nat.isValidChar]
    omega
  rw [Char.ofNat, dif_pos valid]
  rfl

/-! ### The bytes of a character -/

theorem encodeChar_one (h : a.toNat < 0x80) : encodeChar (Char.ofNat a.toNat) = [a] := by
  rw [encodeChar, toNat_ofNat (.inl (by omega))]
  rw [if_pos h, toUInt8_eq rfl]

theorem encodeChar_two (ha : 0xc2 ≤ a.toNat ∧ a.toNat < 0xe0) (hb : isTail b = true) :
    encodeChar (Char.ofNat (a.toNat % 0x20 * 0x40 + low b)) = [a, b] := by
  have tail := toNat_of_isTail hb
  rw [low]
  have bound : a.toNat % 0x20 * 0x40 + b.toNat % 0x40 < 0x800 := by omega
  rw [encodeChar, toNat_ofNat (.inl (by omega))]
  rw [if_neg (by omega), if_pos bound]
  congr 1
  · exact toUInt8_eq (by omega)
  · rw [toUInt8_eq (a := b) (by omega)]

/-- What a second byte has to be like after the first bytes that leave a choice. -/
theorem toNat_of_isSecond (h : isSecond a b = true) : (0x80 ≤ b.toNat ∧ b.toNat < 0xc0) ∧
    (a.toNat = 0xe0 → 0xa0 ≤ b.toNat) ∧ (a.toNat = 0xed → b.toNat < 0xa0) ∧
      (a.toNat = 0xf0 → 0x90 ≤ b.toNat) ∧ (a.toNat = 0xf4 → b.toNat < 0x90) := by
  rw [isSecond, Bool.and_eq_true] at h
  obtain ⟨tail, second⟩ := h
  refine ⟨toNat_of_isTail tail, ?_⟩
  simp only [beq_iff_eq, ← UInt8.toNat_inj, UInt8.le_iff_toNat_le, UInt8.lt_iff_toNat_lt] at second
  refine ⟨fun ha => ?_, fun ha => ?_, fun ha => ?_, fun ha => ?_⟩
  all_goals simpa [ha] using second

theorem encodeChar_three (ha : 0xe0 ≤ a.toNat ∧ a.toNat < 0xf0) (hb : isSecond a b = true)
    (hc : isTail c = true) :
    encodeChar (Char.ofNat (a.toNat % 0x10 * 0x1000 + low b * 0x40 + low c)) = [a, b, c] := by
  obtain ⟨second, longer, surrogate, -, -⟩ := toNat_of_isSecond hb
  have tail := toNat_of_isTail hc
  rw [low, low]
  have bounds : 0x800 ≤ a.toNat % 0x10 * 0x1000 + b.toNat % 0x40 * 0x40 + c.toNat % 0x40 ∧
      a.toNat % 0x10 * 0x1000 + b.toNat % 0x40 * 0x40 + c.toNat % 0x40 < 0x10000 := by omega
  rw [encodeChar, toNat_ofNat (by omega), if_neg (by omega), if_neg (by omega),
    if_pos bounds.2, toUInt8_eq (a := a) (by omega), toUInt8_eq (a := b) (by omega),
    toUInt8_eq (a := c) (by omega)]

theorem encodeChar_four (ha : 0xf0 ≤ a.toNat ∧ a.toNat < 0xf5) (hb : isSecond a b = true)
    (hc : isTail c = true) (hd : isTail d = true) :
    encodeChar (Char.ofNat (a.toNat % 8 * 0x40000 + low b * 0x1000 + low c * 0x40 + low d)) =
      [a, b, c, d] := by
  obtain ⟨second, -, -, longer, past⟩ := toNat_of_isSecond hb
  have tail := toNat_of_isTail hc
  have tail' := toNat_of_isTail hd
  rw [low, low, low]
  have bounds : 0x10000 ≤ a.toNat % 8 * 0x40000 + b.toNat % 0x40 * 0x1000 +
        c.toNat % 0x40 * 0x40 + d.toNat % 0x40 ∧
      a.toNat % 8 * 0x40000 + b.toNat % 0x40 * 0x1000 + c.toNat % 0x40 * 0x40 +
        d.toNat % 0x40 < 0x110000 := by omega
  rw [encodeChar, toNat_ofNat (by omega), if_neg (by omega), if_neg (by omega),
    if_neg (by omega), toUInt8_eq (a := a) (by omega), toUInt8_eq (a := b) (by omega),
    toUInt8_eq (a := c) (by omega), toUInt8_eq (a := d) (by omega)]

/-! ### The bytes of a text -/

/-- A character that was read, in front of a text that was read. -/
theorem encode_of_map {x : Except Malformed (List Char)} {char : Char} {s : List Char}
    {front rest : List UInt8} (h : x.map (char :: ·) = .ok s) (hc : encodeChar char = front)
    (hs : ∀ {s}, x = .ok s → encode s = rest) : encode s = front ++ rest := by
  cases x with
  | error e => cases h
  | ok s =>
    cases h
    rw [encode, List.flatMap_cons, hc]
    exact congrArg (front ++ ·) (hs rfl)

/-- Bytes that are read at a position are the bytes of their text. -/
theorem encode_of_decodeFrom {i : Nat} {bytes : List UInt8} {s : List Char}
    (h : decodeFrom i bytes = .ok s) : encode s = bytes := by
  -- Five cases end without a refusal: no bytes at all, and a character of one to four bytes.
  fun_induction decodeFrom i bytes generalizing s with
  | case1 =>
    cases h
    rfl
  | case2 i a bytes ascii ih =>
    exact encode_of_map h (encodeChar_one (toNat_lt_of_lt ascii (by decide))) ih
  | case6 i a _ least most b bytes tail ih =>
    refine encode_of_map h (encodeChar_two ⟨?_, ?_⟩ (by simpa using tail)) ih
    · exact le_toNat_of_not_lt least (by decide)
    · exact toNat_lt_of_lt most (by decide)
  | case12 i a _ _ least most b c bytes second tail ih =>
    refine encode_of_map h
      (encodeChar_three ⟨?_, ?_⟩ (by simpa using second) (by simpa using tail)) ih
    · exact le_toNat_of_not_lt least (by decide)
    · exact toNat_lt_of_lt most (by decide)
  | case22 i a _ _ _ least most b c d bytes second tail tail' ih =>
    refine encode_of_map h (encodeChar_four ⟨?_, ?_⟩ (by simpa using second)
      (by simpa using tail) (by simpa using tail')) ih
    · exact le_toNat_of_not_lt least (by decide)
    · exact toNat_lt_of_lt most (by decide)
  | _ => cases h

/-- Bytes that decode are the bytes of their text. -/
theorem encode_of_decode {bytes : List UInt8} {s : List Char} (h : decode bytes = .ok s) :
    encode s = bytes :=
  encode_of_decodeFrom h

/-! ### Reading a character -/

theorem lt_of_toNat_lt {n : Nat} (hn : n < 256) (h : a.toNat < n) : a < UInt8.ofNat n := by
  rw [UInt8.lt_iff_toNat_lt, UInt8.toNat_ofNat']
  omega

theorem not_lt_of_le_toNat {n : Nat} (hn : n < 256) (h : n ≤ a.toNat) : ¬ a < UInt8.ofNat n := by
  rw [UInt8.lt_iff_toNat_lt, UInt8.toNat_ofNat']
  omega

theorem isTail_of_toNat (h : 0x80 ≤ b.toNat ∧ b.toNat < 0xc0) : isTail b = true := by
  simp only [isTail, Bool.and_eq_true, decide_eq_true_eq, UInt8.le_iff_toNat_le]
  exact ⟨h.1, Nat.le_of_lt_succ h.2⟩

theorem isSecond_of_toNat (tail : 0x80 ≤ b.toNat ∧ b.toNat < 0xc0)
    (e0 : a.toNat = 0xe0 → 0xa0 ≤ b.toNat) (ed : a.toNat = 0xed → b.toNat < 0xa0)
    (f0 : a.toNat = 0xf0 → 0x90 ≤ b.toNat) (f4 : a.toNat = 0xf4 → b.toNat < 0x90) :
    isSecond a b = true := by
  rw [isSecond, isTail_of_toNat tail, Bool.true_and]
  simp only [beq_iff_eq, ← UInt8.toNat_inj, UInt8.le_iff_toNat_le, UInt8.lt_iff_toNat_lt]
  split
  · next first => simpa using e0 first
  · split
    · next first => simpa using ed first
    · split
      · next first => simpa using f0 first
      · split
        · next first => simpa using f4 first
        · rfl

variable {s : List UInt8} {i : Nat}

theorem decodeFrom_one (ha : a.toNat < 0x80) :
    decodeFrom i (a :: s) = (decodeFrom (i + 1) s).map (Char.ofNat a.toNat :: ·) := by
  have one : a < 0x80 := lt_of_toNat_lt (by decide) ha
  rw [decodeFrom.eq_def]
  simp only [if_pos one]

theorem decodeFrom_two (ha : 0xc2 ≤ a.toNat ∧ a.toNat < 0xe0) (hb : isTail b = true) :
    decodeFrom i (a :: b :: s) =
      (decodeFrom (i + 2) s).map (Char.ofNat (a.toNat % 0x20 * 0x40 + low b) :: ·) := by
  have one : ¬ a < 0x80 := not_lt_of_le_toNat (n := 0x80) (by decide) (by omega)
  have least : ¬ a < 0xc2 := not_lt_of_le_toNat (n := 0xc2) (by decide) ha.1
  have two : a < 0xe0 := lt_of_toNat_lt (by decide) ha.2
  simp [decodeFrom, one, least, two, hb]

theorem decodeFrom_three (ha : 0xe0 ≤ a.toNat ∧ a.toNat < 0xf0) (hb : isSecond a b = true)
    (hc : isTail c = true) :
    decodeFrom i (a :: b :: c :: s) =
      (decodeFrom (i + 3) s).map
        (Char.ofNat (a.toNat % 0x10 * 0x1000 + low b * 0x40 + low c) :: ·) := by
  have one : ¬ a < 0x80 := not_lt_of_le_toNat (n := 0x80) (by decide) (by omega)
  have least : ¬ a < 0xc2 := not_lt_of_le_toNat (n := 0xc2) (by decide) (by omega)
  have two : ¬ a < 0xe0 := not_lt_of_le_toNat (n := 0xe0) (by decide) ha.1
  have three : a < 0xf0 := lt_of_toNat_lt (by decide) ha.2
  simp [decodeFrom, one, least, two, three, hb, hc]

theorem decodeFrom_four (ha : 0xf0 ≤ a.toNat ∧ a.toNat < 0xf5) (hb : isSecond a b = true)
    (hc : isTail c = true) (hd : isTail d = true) :
    decodeFrom i (a :: b :: c :: d :: s) =
      (decodeFrom (i + 4) s).map
        (Char.ofNat (a.toNat % 8 * 0x40000 + low b * 0x1000 + low c * 0x40 + low d) :: ·) := by
  have one : ¬ a < 0x80 := not_lt_of_le_toNat (n := 0x80) (by decide) (by omega)
  have least : ¬ a < 0xc2 := not_lt_of_le_toNat (n := 0xc2) (by decide) (by omega)
  have two : ¬ a < 0xe0 := not_lt_of_le_toNat (n := 0xe0) (by decide) (by omega)
  have three : ¬ a < 0xf0 := not_lt_of_le_toNat (n := 0xf0) (by decide) ha.1
  have four : a < 0xf5 := lt_of_toNat_lt (by decide) ha.2
  simp [decodeFrom, one, least, two, three, four, hb, hc, hd]

/-! ### Texts that were encoded -/

theorem toNat_toUInt8 {n : Nat} (h : n < 256) : n.toUInt8.toNat = n := by
  rw [Nat.toUInt8, UInt8.toNat_ofNat', Nat.mod_eq_of_lt h]

/-- The byte of six bits behind the first byte of a character. -/
theorem toNat_tail (n : Nat) : (0x80 + n % 0x40).toUInt8.toNat = 0x80 + n % 0x40 :=
  toNat_toUInt8 (by omega)

theorem isTail_tail (n : Nat) : isTail (0x80 + n % 0x40).toUInt8 = true := by
  apply isTail_of_toNat
  rw [toNat_tail]
  omega

theorem low_tail (n : Nat) : low (0x80 + n % 0x40).toUInt8 = n % 0x40 := by
  rw [low, toNat_tail]
  omega

/-- The bytes of a character in front of others are read as the character. -/
theorem decodeFrom_encodeChar (c : Char) (i : Nat) (s : List UInt8) :
    decodeFrom i (encodeChar c ++ s) =
      (decodeFrom (i + (encodeChar c).length) s).map (c :: ·) := by
  have valid : c.toNat < 0xd800 ∨ 0xdfff < c.toNat ∧ c.toNat < 0x110000 := c.valid
  -- Every length of the bytes has the number of the character as its value.
  have char : ∀ n, n = c.toNat → Char.ofNat n = c := by
    rintro n rfl
    exact Char.ofNat_toNat c
  generalize number : c.toNat = n at valid char
  unfold encodeChar
  rw [number]
  by_cases one : n < 0x80
  · have first : n.toUInt8.toNat = n := toNat_toUInt8 (by omega)
    rw [if_pos one, List.singleton_append, decodeFrom_one (by omega), first, char n rfl]
    rfl
  by_cases two : n < 0x800
  · have first : (0xc0 + n / 0x40).toUInt8.toNat = 0xc0 + n / 0x40 := toNat_toUInt8 (by omega)
    rw [if_neg one, if_pos two, List.cons_append, List.singleton_append,
      decodeFrom_two (by omega) (isTail_tail n), low_tail, first, char _ (by omega)]
    rfl
  by_cases three : n < 0x10000
  · have first : (0xe0 + n / 0x1000).toUInt8.toNat = 0xe0 + n / 0x1000 := toNat_toUInt8 (by omega)
    have second := toNat_tail (n / 0x40)
    have follows : isSecond (0xe0 + n / 0x1000).toUInt8 (0x80 + n / 0x40 % 0x40).toUInt8 = true :=
      by apply isSecond_of_toNat <;> omega
    rw [if_neg one, if_neg two, if_pos three, List.cons_append, List.cons_append,
      List.singleton_append, decodeFrom_three (by omega) follows (isTail_tail n), low_tail,
      low_tail, first, char _ (by omega)]
    rfl
  · have first : (0xf0 + n / 0x40000).toUInt8.toNat = 0xf0 + n / 0x40000 :=
      toNat_toUInt8 (by omega)
    have second := toNat_tail (n / 0x1000)
    have follows :
        isSecond (0xf0 + n / 0x40000).toUInt8 (0x80 + n / 0x1000 % 0x40).toUInt8 = true := by
      apply isSecond_of_toNat <;> omega
    rw [if_neg one, if_neg two, if_neg three, List.cons_append, List.cons_append, List.cons_append,
      List.singleton_append,
      decodeFrom_four (by omega) follows (isTail_tail (n / 0x40)) (isTail_tail n), low_tail,
      low_tail, low_tail, first, char _ (by omega)]
    rfl

/-- The bytes of a text in front of others are read as the text. -/
theorem decodeFrom_encode_append (i : Nat) (s : List Char) (bytes : List UInt8) :
    decodeFrom i (encode s ++ bytes) =
      (decodeFrom (i + (encode s).length) bytes).map (s ++ ·) := by
  induction s generalizing i with
  | nil =>
    change decodeFrom i bytes = (decodeFrom i bytes).map id
    cases decodeFrom i bytes <;> rfl
  | cons c s ih =>
    have rest : encode (c :: s) = encodeChar c ++ encode s := List.flatMap_cons
    rw [rest, List.append_assoc, decodeFrom_encodeChar, ih, List.length_append, ← Nat.add_assoc]
    cases decodeFrom (i + (encodeChar c).length + (encode s).length) bytes <;> rfl

theorem decodeFrom_encode (i : Nat) (s : List Char) : decodeFrom i (encode s) = .ok s := by
  rw [← List.append_nil (encode s), decodeFrom_encode_append, decodeFrom, Except.map,
    List.append_nil]

/-- The bytes of a text are read as the text. -/
theorem decode_encode (s : List Char) : decode (encode s) = .ok s :=
  decodeFrom_encode 0 s

/-- Bytes that are read are the bytes of a text, and no other bytes are. -/
theorem decode_eq_ok_iff {bytes : List UInt8} {s : List Char} :
    decode bytes = .ok s ↔ bytes = encode s :=
  ⟨fun h => (encode_of_decode h).symm, fun h => h ▸ decode_encode s⟩

/-- A text whose bytes begin with the bytes of another text begins with that text: no character is
cut between them. -/
theorem exists_of_encode_eq_append {s t : List Char} {bytes : List UInt8}
    (h : encode t = encode s ++ bytes) : ∃ rest, t = s ++ rest ∧ encode rest = bytes := by
  have read : decode (encode s ++ bytes) = .ok t := h ▸ decode_encode t
  rw [decode, decodeFrom_encode_append] at read
  cases rest : decodeFrom (0 + (encode s).length) bytes with
  | error e =>
    rw [rest] at read
    cases read
  | ok rest' =>
    rw [rest] at read
    exact ⟨rest', (Except.ok.inj read).symm, encode_of_decodeFrom rest⟩

/-- A byte of seven bits is the byte of one character and stands in the bytes of no other. -/
theorem eq_of_mem_encodeChar {c : Char} (ascii : a.toNat < 0x80) (h : a ∈ encodeChar c) :
    c = Char.ofNat a.toNat := by
  have valid : c.toNat < 0xd800 ∨ 0xdfff < c.toNat ∧ c.toNat < 0x110000 := c.valid
  -- Of several bytes each one has its highest bit set.
  have apart : ∀ n : Nat, n < 256 → 0x80 ≤ n → a ≠ n.toUInt8 := by
    rintro n small high rfl
    rw [toNat_toUInt8 small] at ascii
    omega
  by_cases one : c.toNat < 0x80
  · rw [encodeChar, if_pos one, List.mem_singleton] at h
    rw [h, toNat_toUInt8 (by omega), Char.ofNat_toNat]
  · simp only [encodeChar, if_neg one] at h
    split at h
    · simp only [List.mem_cons, List.not_mem_nil, or_false] at h
      rcases h with h | h
      all_goals exact absurd h (apart _ (by omega) (by omega))
    · split at h
      · simp only [List.mem_cons, List.not_mem_nil, or_false] at h
        rcases h with h | h | h
        all_goals exact absurd h (apart _ (by omega) (by omega))
      · simp only [List.mem_cons, List.not_mem_nil, or_false] at h
        rcases h with h | h | h | h
        all_goals exact absurd h (apart _ (by omega) (by omega))

end ProofRelay.Text.Utf8
