import ProofRelay.Decimal.Reading
import ProofRelay.Proofs.Files.Locations

/-!
# Numbers that read back

A natural number as it is written, in decimal digits without anything around them, is read as
itself, as long as it has no more digits than an integer may be written with.  A text of blanks
writes no number at all, also where some of the blanks are no margins of a number.

## Main results

* `Decimal.readInt_toString` : a written natural number reads back.
* `Decimal.readInt_of_isBlankText`, `Decimal.readFloat?_of_isBlankText` : blanks are no number.
-/

namespace ProofRelay

/-- What holds of the blank characters one after another holds of every one. -/
theorem Text.forall_isBlank {p : Char → Bool}
    (h : ∀ r ∈ blankRanges, ∀ n ∈ List.range' r.1 (r.2 + 1 - r.1), p (Char.ofNat n) = true)
    {c : Char} (blank : isBlank c = true) : p c = true := by
  obtain ⟨r, mem, within⟩ := List.any_eq_true.mp blank
  simp only [Bool.and_eq_true, decide_eq_true_eq] at within
  have held := h r mem c.toNat (List.mem_range'_1.mpr ⟨within.1, by omega⟩)
  rwa [Char.ofNat_toNat] at held

namespace Decimal

open ProofRelay.Text

/-- The value of a decimal digit as it is written in ASCII. -/
theorem digitValue?_of_isDigit {c : Char} (h : c.isDigit = true) :
    digitValue? c = some (c.toNat - '0'.toNat) := by
  have small : c.toNat < 0x80 := by
    simp only [Char.isDigit, Bool.and_eq_true, decide_eq_true_eq, ge_iff_le,
      UInt32.le_iff_toNat_le] at h
    have last : c.toNat ≤ 57 := h.2
    omega
  rw [digitValue?, if_pos small, if_pos h]

theorem isMargin_of_isDigit {c : Char} (h : c.isDigit = true) : isMargin c = false := by
  simp only [Char.isDigit, Bool.and_eq_true, decide_eq_true_eq, ge_iff_le,
    UInt32.le_iff_toNat_le] at h
  have first : 48 ≤ c.toNat := h.1
  have last : c.toNat ≤ 57 := h.2
  have blank : isBlank c = false := by
    simp [isBlank, blankRanges]
    omega
  rw [isMargin, blank, Bool.false_and]

/-- A run of digits is read to its end. -/
theorem digitRun_of_isDigit {s : List Char} (h : ∀ c ∈ s, c.isDigit = true) (ready : Bool) :
    digitRun ready s = (s.map fun c => c.toNat - '0'.toNat, []) := by
  induction s generalizing ready with
  | nil => rfl
  | cons c s ih =>
    rw [digitRun.eq_def]
    dsimp only
    rw [digitValue?_of_isDigit (h c List.mem_cons_self)]
    dsimp only
    rw [ih fun d hd => h d (List.mem_cons_of_mem c hd)]
    rfl

theorem dropWhile_isMargin {s : List Char} (h : ∀ c ∈ s, c.isDigit = true) :
    s.dropWhile isMargin = s := by
  cases s with
  | nil => rfl
  | cons c s =>
    rw [List.dropWhile_cons, isMargin_of_isDigit (h c List.mem_cons_self),
      if_neg Bool.false_ne_true]

/-- Digits have no margins. -/
theorem withoutMargins_of_isDigit {text : String} (h : ∀ c ∈ text.toList, c.isDigit = true) :
    withoutMargins text = text.toList := by
  have reversed : ∀ c ∈ text.toList.reverse, c.isDigit = true :=
    fun c hc => h c (List.mem_reverse.1 hc)
  rw [withoutMargins, dropWhile_isMargin h, dropWhile_isMargin reversed, List.reverse_reverse]

theorem signRun_of_isDigit {s : List Char} (h : ∀ c ∈ s, c.isDigit = true) :
    signRun s = (false, s) := by
  cases s with
  | nil => rfl
  | cons c s =>
    have digit := h c List.mem_cons_self
    rw [signRun.eq_def]
    split
    · next hs =>
      cases hs
      cases digit
    · next hs =>
      cases hs
      cases digit
    · rfl

/-- The number of a list of digits is the one that they write. -/
theorem ofDigits_map (s : List Char) :
    ofDigits (s.map fun c => c.toNat - '0'.toNat) = Nat.ofDigitChars 10 s 0 := by
  rw [ofDigits, List.foldl_map]
  rfl

/-- A written natural number reads back. -/
theorem readInt_toString {n : Nat} (short : (toString n).toList.length ≤ digitLimit) :
    readInt (toString n) = .ok n := by
  have digits : ∀ c ∈ (toString n).toList, c.isDigit = true := fun c => isDigit_of_mem_toString
  have value : ofDigits ((toString n).toList.map fun c => c.toNat - '0'.toNat) = n := by
    rw [ofDigits_map, Nat.toString_eq_repr, Nat.toList_repr,
      Nat.ofDigitChars_toDigits (by decide) (by decide)]
  have some : (toString n).toList.map (fun c => c.toNat - '0'.toNat) ≠ [] := by
    rw [Nat.toString_eq_repr, Nat.toList_repr, ne_eq, List.map_eq_nil_iff]
    exact Nat.toDigits_ne_nil
  rw [readInt, withoutMargins_of_isDigit digits, signRun_of_isDigit digits]
  dsimp only
  rw [digitRun_of_isDigit digits]
  split
  · next empty => exact absurd (Prod.mk.inj empty).1 some
  · next ds _ read =>
    obtain ⟨rfl, -⟩ := Prod.mk.inj read
    rw [List.length_map, if_neg (Nat.not_lt.2 short), value]
    rfl
  · next other => exact absurd rfl (other _)

/-! ### Blanks -/

/-- A blank is no digit, also in lower case. -/
theorem digitValue?_of_isBlank {c : Char} (h : isBlank c = true) :
    digitValue? c = none ∧ isBlank c.toLower = true := by
  have held : (digitValue? c == none && isBlank c.toLower) = true :=
    forall_isBlank (p := fun c => digitValue? c == none && isBlank c.toLower)
      (by decide +kernel) h
  simpa using held

variable {s : List Char}

/-- Blanks are left over in front of digits. -/
theorem digitRun_of_isBlank (h : ∀ c ∈ s, isBlank c = true) : digitRun false s = ([], s) := by
  cases s with
  | nil => rfl
  | cons c s =>
    rw [digitRun.eq_def]
    dsimp only
    rw [(digitValue?_of_isBlank (h c List.mem_cons_self)).1]
    rfl

/-- Blanks begin with no sign. -/
theorem signRun_of_isBlank (h : ∀ c ∈ s, isBlank c = true) : signRun s = (false, s) := by
  rw [signRun.eq_def]
  split
  · exact absurd (h '-' List.mem_cons_self) (by decide)
  · exact absurd (h '+' List.mem_cons_self) (by decide)
  · rfl

/-- Blanks are no word for a number. -/
theorem namedNumber?_of_isBlank (h : ∀ c ∈ s, isBlank c = true) (negative : Bool) :
    namedNumber? negative s = none := by
  have lower : ∀ c ∈ s.map Char.toLower, isBlank c = true := by
    intro c mem
    obtain ⟨b, hb, rfl⟩ := List.mem_map.mp mem
    exact (digitValue?_of_isBlank (h b hb)).2
  have other : ∀ word : String, (∃ c ∈ word.toList, isBlank c = false) →
      String.ofList (s.map Char.toLower) ≠ word := by
    rintro _ ⟨c, mem, ink⟩ rfl
    rw [String.toList_ofList] at mem
    exact absurd (lower c mem) (ink ▸ Bool.false_ne_true)
  rw [namedNumber?, if_neg, if_neg]
  · exact other "nan" ⟨'n', by decide, by decide⟩
  · rintro (word | word)
    · exact other "inf" ⟨'i', by decide, by decide⟩ word
    · exact other "infinity" ⟨'i', by decide, by decide⟩ word

/-- Blanks are no decimal number. -/
theorem decimalNumber?_of_isBlank (h : ∀ c ∈ s, isBlank c = true) (negative : Bool) :
    decimalNumber? negative s = none := by
  rw [decimalNumber?, digitRun_of_isBlank h]
  dsimp only
  split
  · exact absurd (h '.' List.mem_cons_self) (by decide)
  · rfl

/-- What is left of blanks without their margins is blank. -/
theorem isBlank_of_mem_withoutMargins {text : String} (h : isBlankText text = true) :
    ∀ c ∈ withoutMargins text, isBlank c = true := by
  intro c mem
  have inner := (List.dropWhile_sublist _).subset (List.mem_reverse.mp mem)
  have outer := (List.dropWhile_sublist _).subset (List.mem_reverse.mp inner)
  exact List.all_eq_true.mp h c outer

/-- Blanks are no integer. -/
theorem readInt_of_isBlankText {text : String} (h : isBlankText text = true) :
    readInt text = .error .invalid := by
  have blank := isBlank_of_mem_withoutMargins h
  rw [readInt, signRun_of_isBlank blank]
  dsimp only
  rw [digitRun_of_isBlank blank]

/-- Blanks are no floating-point number. -/
theorem readFloat?_of_isBlankText {text : String} (h : isBlankText text = true) :
    readFloat? text = none := by
  have blank := isBlank_of_mem_withoutMargins h
  rw [readFloat?, signRun_of_isBlank blank]
  dsimp only
  rw [namedNumber?_of_isBlank blank, decimalNumber?_of_isBlank blank]

end Decimal

end ProofRelay
