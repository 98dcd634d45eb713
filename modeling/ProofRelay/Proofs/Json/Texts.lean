import ProofRelay.Json.Printer
import ProofRelay.Proofs.Json.Grammar
import ProofRelay.Proofs.Text.Utf8

/-!
# Texts in documents

A text is written between quotation marks in printable ASCII, and what is written denotes exactly
its code points.  One code point is written as itself, as a short escape, as a numbered escape or as
the two escapes of a surrogate pair; this spells its *units*, the one or two sixteen-bit numbers
that were written, of which the pairs are joined in the end.

So the halves that stand alone in a text come back too, as long as no first half stands in front of
a second one, which would be joined to it.  In the code points of characters there are no halves.

## Main definitions

* `units` : the numbers that a code point is written by.
* `AreJoined` : code points in which no pair is left to join.
* `IsPrintable` : the characters of a document.

## Main results

* `spellsText_flatMap_writePoint` : written code points spell their units.
* `joinHalves_flatMap_units` : the units of joined code points, joined, are the code points.
* `denotes_quotePoints`, `denotes_quoteText` : what is written denotes the text.
* `isPrintable_of_mem_quotePoints` : code points are written in printable characters.
-/

namespace ProofRelay.Json

open ProofRelay.Text

/-! ### Digits -/

theorem hexNumber?_append_digit {s : List Char} {m : Nat} (h : hexNumber? s = some m) (k : Fin 16) :
    hexNumber? (s ++ [hexDigit k]) = some (16 * m + k.val) := by
  rw [hexNumber?, List.foldl_append]
  change ((hexNumber? s).bind fun n => (hexValue? (hexDigit k)).map (16 * n + ·)) = _
  rw [h, hexValue?_hexDigit]
  rfl

/-- Digits of a fixed count read back as the number, as far as it fits into them. -/
theorem hexNumber?_fixedHex (width n : Nat) :
    hexNumber? (fixedHex width n) = some (n % Nat.pow 16 width) := by
  induction width generalizing n with
  | zero =>
    change _ = some (n % 1)
    rw [Nat.mod_one]
    rfl
  | succ width ih =>
    have digit : n % 16 < 16 := Nat.mod_lt n (by omega)
    change _ = some (n % (Nat.pow 16 width * 16))
    rw [fixedHex, hexNumber?_append_digit (ih (n / 16)) ⟨n % 16, digit⟩]
    rw [Nat.mul_comm (Nat.pow 16 width) 16, Nat.mod_mul, Nat.add_comm]

/-- Four digits as the reader takes them. -/
theorem exists_fixedHex_four {n : Nat} (h : n < 0x10000) :
    ∃ a b c d, fixedHex 4 n = [a, b, c, d] ∧ hexFour? a b c d = some n := by
  refine ⟨_, _, _, _, rfl, ?_⟩
  change hexNumber? (fixedHex 4 n) = some n
  have bound : n < Nat.pow 16 4 := h
  rw [hexNumber?_fixedHex, Nat.mod_eq_of_lt bound]

/-! ### Units -/

/-- The numbers that a code point is written by: its own, or the halves of its surrogate pair. -/
def units (n : Nat) : List Nat :=
  if n < 0x10000 then [n]
  else [0xd800 + (n - 0x10000) / 0x400, 0xdc00 + (n - 0x10000) % 0x400]

/-- Code points in which no pair is left to join. -/
structure AreJoined (ps : List Nat) : Prop where
  /-- They are code points. -/
  bound : ∀ n ∈ ps, n < 0x110000
  /-- They stay as they are when pairs are joined. -/
  joined : joinHalves ps = ps

theorem toNat_lt (c : Char) : c.toNat < 0x110000 := by
  have h : c.toNat < 0xd800 ∨ 0xdfff < c.toNat ∧ c.toNat < 0x110000 := c.valid
  omega

/-- The code points of characters are joined. -/
theorem areJoined_toNat (cs : List Char) : AreJoined (cs.map Char.toNat) := by
  refine ⟨fun n hn => ?_, joinHalves_of_all_char cs⟩
  obtain ⟨c, -, rfl⟩ := List.mem_map.1 hn
  exact toNat_lt c

theorem joinHalves_cons_of_not_pair {n : Nat} {ns : List Nat}
    (h : isHighHalf n = true → ∀ m ∈ ns.head?, isLowHalf m = false) :
    joinHalves (n :: ns) = n :: joinHalves ns := by
  cases ns with
  | nil => rfl
  | cons m ns =>
    rw [joinHalves, if_neg]
    rw [Bool.and_eq_true]
    rintro ⟨high, low⟩
    rw [h high m rfl] at low
    cases low

/-- The halves of a pair are joined to its code point. -/
theorem joinHalves_pair {n : Nat} (low : 0x10000 ≤ n) (high : n < 0x110000) (ns : List Nat) :
    joinHalves ((0xd800 + (n - 0x10000) / 0x400) :: (0xdc00 + (n - 0x10000) % 0x400) :: ns) =
      n :: joinHalves ns := by
  have first : isHighHalf (0xd800 + (n - 0x10000) / 0x400) = true := by
    simp only [isHighHalf, Bool.and_eq_true, decide_eq_true_eq]
    omega
  have second : isLowHalf (0xdc00 + (n - 0x10000) % 0x400) = true := by
    simp only [isLowHalf, Bool.and_eq_true, decide_eq_true_eq]
    omega
  have point : pairPoint (0xd800 + (n - 0x10000) / 0x400) (0xdc00 + (n - 0x10000) % 0x400) = n := by
    unfold pairPoint
    omega
  rw [joinHalves, first, second, Bool.and_self, if_pos rfl, point]

/-- In joined code points no first half stands in front of a second one. -/
theorem AreJoined.of_cons {n : Nat} {ns : List Nat} (h : AreJoined (n :: ns)) :
    AreJoined ns ∧ (isHighHalf n = true → ∀ m ∈ ns.head?, isLowHalf m = false) := by
  have bound : ∀ m ∈ ns, m < 0x110000 := fun m hm => h.bound m (List.mem_cons_of_mem n hm)
  have joined := h.joined
  cases ns with
  | nil => exact ⟨⟨bound, rfl⟩, nofun⟩
  | cons m ns =>
    rw [joinHalves] at joined
    split at joined
    · next pair =>
      -- The code point of a pair is none of its halves.
      rw [Bool.and_eq_true] at pair
      have point := (List.cons.inj joined).1
      simp only [isHighHalf, isLowHalf, Bool.and_eq_true, decide_eq_true_eq] at pair
      unfold pairPoint at point
      omega
    · next other =>
      refine ⟨⟨bound, (List.cons.inj joined).2⟩, fun high k hk => ?_⟩
      cases hk
      simpa [high] using other

/-- The first unit of code points is a second half only if the first code point is one. -/
theorem isLowHalf_head_units {ns : List Nat} (bound : ∀ n ∈ ns, n < 0x110000)
    (h : ∀ n ∈ ns.head?, isLowHalf n = false) :
    ∀ m ∈ (ns.flatMap units).head?, isLowHalf m = false := by
  cases ns with
  | nil => nofun
  | cons n ns =>
    have small := bound n List.mem_cons_self
    intro m hm
    rw [List.flatMap_cons, units] at hm
    split at hm
    · cases hm
      exact h n rfl
    · cases hm
      simp only [isLowHalf, Bool.and_eq_false_iff, decide_eq_false_iff_not]
      omega

/-- The units of joined code points, joined, are the code points. -/
theorem joinHalves_flatMap_units {ps : List Nat} (h : AreJoined ps) :
    joinHalves (ps.flatMap units) = ps := by
  induction ps with
  | nil => rfl
  | cons n ns ih =>
    obtain ⟨joined, apart⟩ := h.of_cons
    have bound := h.bound n List.mem_cons_self
    rw [List.flatMap_cons, units]
    split
    · rw [List.singleton_append, joinHalves_cons_of_not_pair, ih joined]
      exact fun high => isLowHalf_head_units joined.bound (apart high)
    · next wide =>
      rw [List.cons_append, List.singleton_append, joinHalves_pair (Nat.le_of_not_lt wide) bound,
        ih joined]

/-! ### Denoting what was written -/

/-- A numbered escape spells its number. -/
theorem spellsText_numberedEscape {n : Nat} (h : n < 0x10000) :
    SpellsText (numberedEscape n) [n] := by
  obtain ⟨a, b, c, d, digits, number⟩ := exists_fixedHex_four h
  rw [numberedEscape, digits]
  exact .numbered number .nil

/-- A written character spells its units. -/
theorem spellsText_writeChar (c : Char) : SpellsText (writeChar c) (units c.toNat) := by
  have bound := toNat_lt c
  unfold writeChar
  split
  · exact .letter rfl .nil
  · exact .letter rfl .nil
  · exact .letter rfl .nil
  · exact .letter rfl .nil
  · exact .letter rfl .nil
  · exact .letter rfl .nil
  · exact .letter rfl .nil
  · next mark slash _ _ _ _ _ =>
    rw [units]
    dsimp only
    split
    · next plain =>
      rw [if_pos (by omega)]
      exact .plain mark slash plain.1 .nil
    · split
      · next narrow => exact spellsText_numberedEscape narrow
      · next wide =>
        have first := spellsText_numberedEscape (n := 0xd800 + (c.toNat - 0x10000) / 0x400)
          (by omega)
        have second := spellsText_numberedEscape (n := 0xdc00 + (c.toNat - 0x10000) % 0x400)
          (by omega)
        exact first.append second

/-- The code point of a character is written as the character. -/
theorem writePoint_toNat (c : Char) : writePoint c.toNat = writeChar c := by
  rw [writePoint, charOfPoint?, isHalf_toNat, if_neg Bool.false_ne_true, Char.ofNat_toNat]

/-- A written code point spells its units. -/
theorem spellsText_writePoint {n : Nat} (bound : n < 0x110000) :
    SpellsText (writePoint n) (units n) := by
  cases half : isHalf n with
  | true =>
    have small : n < 0x10000 := by
      simp only [isHalf, Bool.and_eq_true, decide_eq_true_eq] at half
      omega
    rw [writePoint, charOfPoint?_of_isHalf half, units, if_pos small]
    exact spellsText_numberedEscape small
  | false =>
    have number : (Char.ofNat n).toNat = n := Utf8.toNat_ofNat <| by
      simp only [isHalf, Bool.and_eq_false_iff, decide_eq_false_iff_not] at half
      omega
    rw [← number, writePoint_toNat]
    exact spellsText_writeChar _

/-- Written code points spell their units. -/
theorem spellsText_flatMap_writePoint {ps : List Nat} (bound : ∀ n ∈ ps, n < 0x110000) :
    SpellsText (ps.flatMap writePoint) (ps.flatMap units) := by
  induction ps with
  | nil => exact .nil
  | cons n ps ih =>
    obtain ⟨first, others⟩ := List.forall_mem_cons.mp bound
    exact (spellsText_writePoint first).append (ih others)

/-- A text is written by its code points. -/
theorem flatMap_writeChar (s : List Char) :
    s.flatMap writeChar = (s.map Char.toNat).flatMap writePoint := by
  rw [List.flatMap_map]
  congr 1
  funext c
  exact (writePoint_toNat c).symm

/-- A text as a value is written by its code points. -/
theorem quoteText_eq_quotePoints (s : String) :
    quoteText s = quotePoints (s.toList.map Char.toNat) := by
  rw [quoteText, quotePoints, flatMap_writeChar]

theorem toList_quotePoints (ps : List Nat) :
    (quotePoints ps).toList = '"' :: (ps.flatMap writePoint ++ ['"']) := by
  rw [quotePoints, String.toList_ofList]
  rfl

/-- Written code points denote their value. -/
theorem denotes_quotePoints {ps : List Nat} (h : AreJoined ps) :
    Denotes (.value (ofPoints ps)) (quotePoints ps).toList := by
  have denotes := Denotes.text (spellsText_flatMap_writePoint h.bound)
  rwa [joinHalves_flatMap_units h, ← toList_quotePoints] at denotes

/-- A written text denotes it. -/
theorem denotes_quoteText (s : String) : Denotes (.value (.str s)) (quoteText s).toList := by
  have denotes := denotes_quotePoints (areJoined_toNat s.toList)
  rwa [ofPoints_toNat, ← quoteText_eq_quotePoints] at denotes

/-! ### Printable characters -/

/-- The printable characters of ASCII, the space among them. -/
def IsPrintable (c : Char) : Prop :=
  0x20 ≤ c.toNat ∧ c.toNat ≤ 0x7e

instance (c : Char) : Decidable (IsPrintable c) :=
  inferInstanceAs (Decidable (_ ∧ _))

theorem isPrintable_of_all {s : List Char} (h : s.all (fun c => decide (IsPrintable c)) = true) :
    ∀ c ∈ s, IsPrintable c :=
  fun c hc => of_decide_eq_true (List.all_eq_true.1 h c hc)

theorem isPrintable_hexDigit : ∀ k : Fin 16, IsPrintable (hexDigit k) := by
  decide

theorem isPrintable_of_mem_fixedHex {width n : Nat} {d : Char} (h : d ∈ fixedHex width n) :
    IsPrintable d := by
  induction width generalizing n with
  | zero => cases h
  | succ width ih =>
    rw [fixedHex, List.mem_append, List.mem_singleton] at h
    rcases h with h | rfl
    · exact ih h
    · exact isPrintable_hexDigit ⟨n % 16, Nat.mod_lt n (by omega)⟩

theorem isPrintable_of_mem_numberedEscape {n : Nat} {d : Char} (h : d ∈ numberedEscape n) :
    IsPrintable d := by
  rw [numberedEscape, List.mem_cons, List.mem_cons] at h
  rcases h with rfl | rfl | h
  · decide
  · decide
  · exact isPrintable_of_mem_fixedHex h

/-- A character is written in printable characters. -/
theorem isPrintable_of_mem_writeChar {c d : Char} (h : d ∈ writeChar c) : IsPrintable d := by
  have short : ∀ e : Char, IsPrintable e → d ∈ ['\\', e] → IsPrintable d := by
    intro e he hd
    rw [List.mem_cons, List.mem_singleton] at hd
    rcases hd with rfl | rfl
    · decide
    · exact he
  unfold writeChar at h
  split at h
  · exact short _ (by decide) h
  · exact short _ (by decide) h
  · exact short _ (by decide) h
  · exact short _ (by decide) h
  · exact short _ (by decide) h
  · exact short _ (by decide) h
  · exact short _ (by decide) h
  · dsimp only at h
    split at h
    · next plain =>
      rw [List.mem_singleton] at h
      subst h
      exact ⟨plain.1, by omega⟩
    · split at h
      · exact isPrintable_of_mem_numberedEscape h
      · rw [List.mem_append] at h
        exact h.elim isPrintable_of_mem_numberedEscape isPrintable_of_mem_numberedEscape

/-- Code points are written in printable characters. -/
theorem isPrintable_of_mem_quotePoints {ps : List Nat} {d : Char}
    (h : d ∈ (quotePoints ps).toList) : IsPrintable d := by
  rw [quotePoints, String.toList_ofList, List.mem_append, List.mem_cons, List.mem_flatMap,
    List.mem_singleton] at h
  rcases h with (rfl | ⟨n, -, h⟩) | rfl
  · decide
  · rw [writePoint] at h
    split at h
    · exact isPrintable_of_mem_writeChar h
    · exact isPrintable_of_mem_numberedEscape h
  · decide

/-- A text is written in printable characters. -/
theorem isPrintable_of_mem_quoteText {s : String} {d : Char} (h : d ∈ (quoteText s).toList) :
    IsPrintable d := by
  rw [quoteText_eq_quotePoints] at h
  exact isPrintable_of_mem_quotePoints h

end ProofRelay.Json
