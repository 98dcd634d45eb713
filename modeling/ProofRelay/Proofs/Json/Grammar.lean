import ProofRelay.Json.Reader

/-!
# The documents of a value

Which texts are a document of a value is told here by the grammar, without the order in which a
reader goes through a text: a value is a word, a number, a text between quotation marks, or a list
or an object with its items between brackets, and any space may stand between two tokens.  A value
has many documents, which differ in space, in the escapes of its texts and in the spelling of its
numbers.

The reader reads every document of a value as that value.  It looks at one character behind a
number, so that a value is read in front of more text as long as this does not go on with the
number; and it works under a bound on its steps, of which three for a character are enough.

## Main definitions

* `Json.SpellsText`, `Json.SpellsNumber` : the spellings of texts and of numbers.
* `Json.Part`, `Json.Denotes` : the parts of a document, and the texts that denote them.

## Main results

* `Json.textPoints_of_spellsText`, `Json.number_of_spellsNumber` : a text and a number are read.
* `Json.reads_of_denotes` : a part in front of more text is read.
* `Json.readChars_of_denotes` : a document of a value reads as the value.
* `Json.readChars_of_tooManyDigits` : a whole number over the limit is refused for its digits.
-/

namespace ProofRelay.Json

open ProofRelay.Text ProofRelay.Decimal

/-! ### Space -/

/-- Whether a text may stand between two tokens. -/
def IsGap (s : List Char) : Prop :=
  ∀ c ∈ s, isSpace c = true

theorem isGap_nil : IsGap [] :=
  List.forall_mem_nil _

theorem skipSpace_cons {c : Char} (h : isSpace c = false) (s : List Char) :
    skipSpace (c :: s) = c :: s := by
  rw [skipSpace, List.dropWhile_cons, h, if_neg Bool.false_ne_true]

/-- Space in front of more text is skipped. -/
theorem skipSpace_append {s : List Char} (h : IsGap s) (t : List Char) :
    skipSpace (s ++ t) = skipSpace t :=
  List.dropWhile_append_of_pos h

/-! ### Texts -/

/-- How a text is spelled between quotation marks, and the numbers that it is spelled by. -/
inductive SpellsText : List Char → List Nat → Prop
  /-- There is nothing more. -/
  | nil : SpellsText [] []
  /-- A character stands for itself. -/
  | plain {c s ns} (mark : c ≠ '"') (slash : c ≠ '\\') (printed : 0x20 ≤ c.toNat)
      (more : SpellsText s ns) : SpellsText (c :: s) (c.toNat :: ns)
  /-- A character is escaped by a letter. -/
  | letter {c e s ns} (escape : escaped? c = some e) (more : SpellsText s ns) :
      SpellsText ('\\' :: c :: s) (e.toNat :: ns)
  /-- A number is escaped. -/
  | numbered {a b c d n s ns} (digits : hexFour? a b c d = some n) (more : SpellsText s ns) :
      SpellsText ('\\' :: 'u' :: a :: b :: c :: d :: s) (n :: ns)

/-- A spelling behind another one spells the numbers of both. -/
theorem SpellsText.append {s t : List Char} {ns ms : List Nat} (h : SpellsText s ns)
    (more : SpellsText t ms) : SpellsText (s ++ t) (ns ++ ms) := by
  induction h with
  | nil => exact more
  | plain mark slash printed _ ih => exact .plain mark slash printed ih
  | letter escape _ ih => exact .letter escape ih
  | numbered digits _ ih => exact .numbered digits ih

variable {opening : List Char}

/-- A short escape is read as its character. -/
theorem textPoints_escape {c e : Char} (s : List Char) (h : escaped? c = some e) :
    textPoints opening ('\\' :: c :: s) = consPoint e.toNat (textPoints opening s) := by
  have letter : c ≠ 'u' := by
    rintro rfl
    cases h
  rw [textPoints.eq_def]
  split
  · next hs => cases hs
  · next hs => simp at hs
  · next hs => simp at hs
  · next hs =>
    simp only [List.cons.injEq, true_and] at hs
    exact absurd hs.1 letter
  · next hs =>
    simp only [List.cons.injEq, true_and] at hs
    obtain ⟨rfl, rfl⟩ := hs
    rw [if_neg (by simpa using letter), h]
  · next other hs =>
    simp only [List.cons.injEq] at hs
    exact absurd hs.2.symm (other _ _ hs.1.symm)

/-- A character that needs no escape is read as itself. -/
theorem textPoints_plain {c : Char} (mark : c ≠ '"') (slash : c ≠ '\\') (h : 0x20 ≤ c.toNat)
    (s : List Char) : textPoints opening (c :: s) = consPoint c.toNat (textPoints opening s) := by
  rw [textPoints.eq_def]
  split
  · next hs => cases hs
  · next hs => exact absurd (List.cons.inj hs).1 mark
  · next hs => exact absurd (List.cons.inj hs).1 slash
  · next hs => exact absurd (List.cons.inj hs).1 slash
  · next hs => exact absurd (List.cons.inj hs).1 slash
  · next hs =>
    obtain ⟨rfl, rfl⟩ := List.cons.inj hs
    rw [if_neg (by omega)]

/-- A spelled text is read up to its closing mark. -/
theorem textPoints_of_spellsText {s : List Char} {ns : List Nat} (h : SpellsText s ns)
    (rest : List Char) : textPoints opening (s ++ '"' :: rest) = .ok (ns, rest) := by
  induction h with
  | nil => rfl
  | plain mark slash printed _ ih =>
    rw [List.cons_append, textPoints_plain mark slash printed, ih]
    rfl
  | letter escape _ ih =>
    rw [List.cons_append, List.cons_append, textPoints_escape _ escape, ih]
    rfl
  | @numbered a b c d n s ns digits _ ih =>
    -- The closing mark is the character that has to follow the digits.
    obtain ⟨e, t, next⟩ : ∃ e t, s ++ '"' :: rest = e :: t := by
      cases s with
      | nil => exact ⟨_, _, rfl⟩
      | cons e s => exact ⟨_, _, rfl⟩
    show textPoints opening ('\\' :: 'u' :: a :: b :: c :: d :: (s ++ '"' :: rest)) = _
    rw [next, textPoints, digits, ← next]
    dsimp only
    rw [ih]
    rfl

/-! ### Numbers -/

/-- How digits are spelled. -/
def SpellsDigits (s : List Char) (ds : List Nat) : Prop :=
  s ≠ [] ∧ s.map asciiDigit? = ds.map some

/-- How the sign of a number is spelled, and whether it is negative. -/
inductive SpellsSign : List Char → Bool → Prop
  /-- There is none. -/
  | absent : SpellsSign [] false
  /-- A minus. -/
  | minus : SpellsSign ['-'] true

/-- How the digits in front of the point are spelled: a zero stands alone. -/
inductive SpellsWhole : List Char → List Nat → Prop
  /-- A zero. -/
  | zero : SpellsWhole ['0'] [0]
  /-- Other digits. -/
  | digits {s ds} (first : s.head? ≠ some '0') (digits : SpellsDigits s ds) : SpellsWhole s ds

/-- How the digits behind the point are spelled. -/
inductive SpellsFraction : List Char → List Nat → Prop
  /-- There is no point. -/
  | absent : SpellsFraction [] []
  /-- There are digits behind it. -/
  | digits {s ds} (digits : SpellsDigits s ds) : SpellsFraction ('.' :: s) ds

/-- How the power of ten is spelled. -/
inductive SpellsPower : List Char → Option Int → Prop
  /-- There is none. -/
  | absent : SpellsPower [] none
  /-- It has no sign. -/
  | plain {e s ds} (letter : e = 'e' ∨ e = 'E') (digits : SpellsDigits s ds) :
      SpellsPower (e :: s) (some (ofDigits ds))
  /-- It has a plus. -/
  | plus {e s ds} (letter : e = 'e' ∨ e = 'E') (digits : SpellsDigits s ds) :
      SpellsPower (e :: '+' :: s) (some (ofDigits ds))
  /-- It has a minus. -/
  | minus {e s ds} (letter : e = 'e' ∨ e = 'E') (digits : SpellsDigits s ds) :
      SpellsPower (e :: '-' :: s) (some (-(ofDigits ds : Int)))

/-- How a number is spelled: whole numbers have neither a point nor a power of ten, and no more
digits than the limit. -/
inductive SpellsNumber : List Char → Json → Prop
  /-- A whole number. -/
  | whole {sign s ds negative} (signed : SpellsSign sign negative) (whole : SpellsWhole s ds)
      (short : ds.length ≤ digitLimit) :
      SpellsNumber (sign ++ s) (.int (if negative then -(ofDigits ds : Int) else ofDigits ds))
  /-- Another number. -/
  | float {sign s ds f fs p power negative} (signed : SpellsSign sign negative)
      (whole : SpellsWhole s ds) (fraction : SpellsFraction f fs) (raised : SpellsPower p power)
      (proper : fs ≠ [] ∨ power ≠ none) :
      SpellsNumber (sign ++ (s ++ (f ++ p)))
        (.float (ofDecimal negative (ofDigits (ds ++ fs)) (power.getD 0 - fs.length)))

/-- Whether a text does not go on with a number in front of it. -/
def EndsNumber (s : List Char) : Prop :=
  ∀ c ∈ s.head?, asciiDigit? c = none ∧ c ≠ '.' ∧ c ≠ 'e' ∧ c ≠ 'E'

theorem digits_append {s t : List Char} {ds : List Nat} (h : s.map asciiDigit? = ds.map some)
    (stop : ∀ c ∈ t.head?, asciiDigit? c = none) : digits (s ++ t) = (ds, t) := by
  induction s generalizing ds with
  | nil =>
    obtain rfl : ds = [] := by simpa using h.symm
    cases t with
    | nil => rfl
    | cons c t =>
      have noDigit : asciiDigit? c = none := stop c rfl
      rw [List.nil_append, digits, noDigit]
  | cons c s ih =>
    cases ds with
    | nil => simp at h
    | cons d ds =>
      obtain ⟨first, rest⟩ : asciiDigit? c = some d ∧ s.map asciiDigit? = ds.map some := by
        simpa using h
      rw [List.cons_append, digits, first]
      dsimp only
      rw [ih rest]

theorem SpellsDigits.ne_nil {s : List Char} {ds : List Nat} (h : SpellsDigits s ds) : ds ≠ [] := by
  rintro rfl
  exact h.1 (by simpa using h.2)

theorem SpellsDigits.exists_cons {s : List Char} {ds : List Nat} (h : SpellsDigits s ds) :
    ∃ c t d, s = c :: t ∧ asciiDigit? c = some d := by
  obtain ⟨full, digits⟩ := h
  cases s with
  | nil => exact absurd rfl full
  | cons c t =>
    cases ds with
    | nil => simp at digits
    | cons d ds =>
      have both : asciiDigit? c = some d ∧ t.map asciiDigit? = ds.map some := by simpa using digits
      exact ⟨c, t, d, rfl, both.1⟩

theorem SpellsWhole.exists_cons {s : List Char} {ds : List Nat} (h : SpellsWhole s ds) :
    ∃ c t d, s = c :: t ∧ asciiDigit? c = some d := by
  cases h with
  | zero => exact ⟨'0', [], 0, rfl, rfl⟩
  | digits _ digits => exact digits.exists_cons

theorem wholePart_append {s t : List Char} {ds : List Nat} (h : SpellsWhole s ds)
    (stop : ∀ c ∈ t.head?, asciiDigit? c = none) : wholePart (s ++ t) = some (ds, t) := by
  cases h with
  | zero => rfl
  | digits first spelled =>
    obtain ⟨c, s, d, rfl, -⟩ := spelled.exists_cons
    have other : c ≠ '0' := fun zero => first (by rw [zero]; rfl)
    have read : digits (c :: s ++ t) = (ds, t) := digits_append spelled.2 stop
    rw [wholePart.eq_def]
    split
    · next h => exact absurd (List.cons.inj h).1 other
    · rw [read]
      split
      · next h => exact absurd (congrArg Prod.fst h) spelled.ne_nil
      · rfl

theorem fraction_append {s t : List Char} {ds : List Nat} (h : SpellsFraction s ds)
    (stop : ∀ c ∈ t.head?, asciiDigit? c = none ∧ c ≠ '.') : fraction (s ++ t) = (ds, t) := by
  cases h with
  | absent =>
    rw [List.nil_append, fraction.eq_def]
    split
    · exact absurd rfl (stop '.' rfl).2
    · rfl
  | @digits s ds spelled =>
    have read : digits (s ++ t) = (ds, t) := digits_append spelled.2 fun c first => (stop c first).1
    have full : ds.isEmpty = false := by simpa using spelled.ne_nil
    rw [List.cons_append, fraction, read, full]
    rfl

/-- Digits behind the letter and the sign of a power. -/
theorem power_of_digits {e : Char} {s t u : List Char} {ds : List Nat} {negative : Bool}
    (letter : e = 'e' ∨ e = 'E') (sign : signRun u = (negative, s ++ t))
    (spelled : SpellsDigits s ds) (stop : ∀ c ∈ t.head?, asciiDigit? c = none) :
    power (e :: u) = (some (if negative then -(ofDigits ds : Int) else ofDigits ds), t) := by
  have marked : (e == 'e' || e == 'E') = true := by simpa using letter
  have read : digits (s ++ t) = (ds, t) := digits_append spelled.2 stop
  rw [power.eq_def]
  dsimp only
  rw [if_pos marked, sign]
  dsimp only
  rw [read]
  split
  · next h => exact absurd (congrArg Prod.fst h) spelled.ne_nil
  · next h =>
    obtain ⟨rfl, rfl⟩ := Prod.mk.inj h
    rfl

theorem power_append {s t : List Char} {power? : Option Int} (h : SpellsPower s power?)
    (stop : EndsNumber t) : power (s ++ t) = (power?, t) := by
  have noDigit : ∀ c ∈ t.head?, asciiDigit? c = none := fun c first => (stop c first).1
  cases h with
  | absent =>
    cases t with
    | nil => rfl
    | cons c t =>
      have unmarked : ¬ (c == 'e' || c == 'E') = true := by simpa using (stop c rfl).2.2
      rw [List.nil_append, power.eq_def]
      dsimp only
      rw [if_neg unmarked]
  | plain letter spelled =>
    obtain ⟨c, s, d, rfl, digit⟩ := spelled.exists_cons
    have unsigned : signRun (c :: s ++ t) = (false, c :: s ++ t) := by
      rw [List.cons_append, signRun.eq_def]
      split
      · next h =>
        rw [(List.cons.inj h).1] at digit
        cases digit
      · next h =>
        rw [(List.cons.inj h).1] at digit
        cases digit
      · rfl
    exact power_of_digits letter unsigned spelled noDigit
  | @plus e s ds letter spelled =>
    have signed : signRun ('+' :: (s ++ t)) = (false, s ++ t) := rfl
    exact power_of_digits letter signed spelled noDigit
  | @minus e s ds letter spelled =>
    have signed : signRun ('-' :: (s ++ t)) = (true, s ++ t) := rfl
    exact power_of_digits letter signed spelled noDigit

/-- Neither a digit nor a point begins the power of a number and what stands behind it. -/
theorem SpellsPower.head_append {s t : List Char} {power? : Option Int} (h : SpellsPower s power?)
    (stop : EndsNumber t) : ∀ c ∈ (s ++ t).head?, asciiDigit? c = none ∧ c ≠ '.' := by
  have ofLetter : ∀ e : Char, e = 'e' ∨ e = 'E' → asciiDigit? e = none ∧ e ≠ '.' := by
    rintro e (rfl | rfl) <;> decide
  intro c first
  cases h with
  | absent => exact ⟨(stop c first).1, (stop c first).2.1⟩
  | plain letter | plus letter | minus letter =>
    cases first
    exact ofLetter _ letter

/-- No digit begins the fraction of a number and what stands behind it. -/
theorem SpellsFraction.head_append {s t : List Char} {ds : List Nat} (h : SpellsFraction s ds)
    (stop : ∀ c ∈ t.head?, asciiDigit? c = none) : ∀ c ∈ (s ++ t).head?, asciiDigit? c = none := by
  intro c first
  cases h with
  | absent => exact stop c first
  | digits =>
    cases first
    rfl

/-- A number is read by its parts. -/
theorem number_append {sign s f p rest : List Char} {negative : Bool} {ds fs : List Nat}
    {power? : Option Int} (signed : SpellsSign sign negative) (whole : SpellsWhole s ds)
    (fractional : SpellsFraction f fs) (raised : SpellsPower p power?) (stop : EndsNumber rest) :
    number (sign ++ (s ++ (f ++ (p ++ rest)))) =
      if fs.isEmpty && power?.isNone then
        if digitLimit < ds.length then
          refuse (.tooManyDigits ds.length) (sign ++ (s ++ (f ++ (p ++ rest))))
        else .ok (.int (if negative then -(ofDigits ds : Int) else ofDigits ds), rest)
      else
        .ok (.float (ofDecimal negative (ofDigits (ds ++ fs)) (power?.getD 0 - fs.length)),
          rest) := by
  have behind := raised.head_append stop
  have readWhole := wholePart_append whole
    (fractional.head_append fun c first => (behind c first).1)
  have readFraction := fraction_append fractional behind
  have readPower := power_append raised stop
  unfold number
  split
  next negative' u split =>
    obtain ⟨rfl, rfl⟩ : negative' = negative ∧ u = s ++ (f ++ (p ++ rest)) := by
      cases signed with
      | absent =>
        obtain ⟨c, t, d, rfl, digit⟩ := whole.exists_cons
        split at split
        · next minus =>
          rw [(List.cons.inj minus).1] at digit
          cases digit
        · obtain ⟨rfl, rfl⟩ := Prod.mk.inj split
          exact ⟨rfl, rfl⟩
      | minus =>
        obtain ⟨rfl, rfl⟩ := Prod.mk.inj split
        exact ⟨rfl, rfl⟩
    rw [readWhole]
    dsimp only
    rw [readFraction]
    dsimp only
    rw [readPower]

/-- A spelled number in front of text that does not go on with it is read. -/
theorem number_of_spellsNumber {s rest : List Char} {v : Json} (h : SpellsNumber s v)
    (stop : EndsNumber rest) : number (s ++ rest) = .ok (v, rest) := by
  cases h with
  | @whole sign s ds negative signed whole short =>
    have read := number_append signed whole .absent .absent stop
    simp only [List.nil_append, List.isEmpty_nil, Option.isNone_none, Bool.and_self, if_true,
      if_neg (Nat.not_lt.mpr short)] at read
    rw [List.append_assoc, read]
  | @float sign s ds f fs p power negative signed whole fraction raised proper =>
    have read := number_append signed whole fraction raised stop
    have other : (fs.isEmpty && power.isNone) = false := by
      rcases proper with full | given
      · rw [List.isEmpty_eq_false_iff.mpr full, Bool.false_and]
      · rw [Option.isNone_eq_false_iff.mpr (Option.isSome_iff_ne_none.mpr given), Bool.and_false]
    rw [other, if_neg Bool.false_ne_true] at read
    rw [List.append_assoc, List.append_assoc, List.append_assoc, read]

/-- A number begins with a digit, or with a minus and a digit. -/
theorem SpellsNumber.exists_cons {s : List Char} {v : Json} (h : SpellsNumber s v) :
    ∃ c t d, asciiDigit? c = some d ∧ (s = c :: t ∨ s = '-' :: c :: t) := by
  have ofSign : ∀ (more : List Char) {sign w negative ds}, SpellsSign sign negative →
      SpellsWhole w ds → ∃ c t d, asciiDigit? c = some d ∧
        (sign ++ (w ++ more) = c :: t ∨ sign ++ (w ++ more) = '-' :: c :: t) := by
    intro more sign w negative ds signed whole
    obtain ⟨c, t, d, rfl, digit⟩ := whole.exists_cons
    cases signed with
    | absent => exact ⟨c, t ++ more, d, digit, .inl rfl⟩
    | minus => exact ⟨c, t ++ more, d, digit, .inr rfl⟩
  cases h with
  | whole signed whole =>
    have start := ofSign [] signed whole
    rwa [List.append_nil] at start
  | float signed whole => exact ofSign _ signed whole

/-! ### Words -/

/-- A text that begins with a digit, or with a minus and a digit, begins with no word. -/
theorem word?_of_digit {c : Char} {d : Nat} (digit : asciiDigit? c = some d) {s t : List Char}
    (start : s = c :: t ∨ s = '-' :: c :: t) : word? s = none := by
  have ofLetter : ∀ e word, asciiDigit? e = none → (e :: word).isPrefixOf (c :: t) = false := by
    intro e word letter
    have other : (e == c) = false := by
      refine beq_false_of_ne ?_
      rintro rfl
      rw [letter] at digit
      cases digit
    rw [List.isPrefixOf, other, Bool.false_and]
  have noPrefix : ∀ w ∈ words, w.1.toList.isPrefixOf s = false := by
    simp only [words, List.forall_mem_cons, List.not_mem_nil, false_imp_iff, implies_true, and_true]
    rcases start with rfl | rfl
    · exact ⟨ofLetter 'n' _ rfl, ofLetter 't' _ rfl, ofLetter 'f' _ rfl, ofLetter 'N' _ rfl,
        ofLetter 'I' _ rfl, ofLetter '-' _ rfl⟩
    · exact ⟨rfl, rfl, rfl, rfl, rfl, ofLetter 'I' _ rfl⟩
  rw [word?, List.findSome?_eq_none_iff]
  intro w mem
  rw [noPrefix w mem, if_neg Bool.false_ne_true]

/-- A text that begins with a digit, or with a minus and a digit, is read as a number. -/
theorem value_of_digit {c : Char} {d : Nat} (digit : asciiDigit? c = some d) {s t : List Char}
    (start : s = c :: t ∨ s = '-' :: c :: t) (fuel : Nat) : value (fuel + 1) s = number s := by
  have noWord := word?_of_digit digit start
  obtain ⟨e, u, rfl, mark, bracket, brace⟩ :
      ∃ e u, s = e :: u ∧ e ≠ '"' ∧ e ≠ '[' ∧ e ≠ '\x7b' := by
    rcases start with rfl | rfl
    · refine ⟨c, t, rfl, ?_, ?_, ?_⟩ <;> rintro rfl <;> cases digit
    · exact ⟨'-', _, rfl, by decide⟩
  rw [value.eq_def]
  dsimp only
  split
  · next h => exact absurd (List.cons.inj h).1 mark
  · next h => exact absurd (List.cons.inj h).1 bracket
  · next h => exact absurd (List.cons.inj h).1 brace
  · rw [noWord]

/-! ### Documents -/

/-- The parts of a document. -/
inductive Part where
  /-- A value. -/
  | value (v : Json)
  /-- The items of a list that has some. -/
  | items (vs : List Json)
  /-- A field of an object. -/
  | field (f : String × Json)
  /-- The fields of an object that has some, in the order in which they are written. -/
  | members (fs : Fields)

/-- The texts that denote a part. -/
inductive Denotes : Part → List Char → Prop
  /-- A value is written as a word. -/
  | word {w} (h : w ∈ words) : Denotes (.value w.2) w.1.toList
  /-- A number. -/
  | number {s v} (spelled : SpellsNumber s v) : Denotes (.value v) s
  /-- A text. -/
  | text {s ns} (spelled : SpellsText s ns) :
      Denotes (.value (ofPoints (joinHalves ns))) ('"' :: (s ++ ['"']))
  /-- A list without items. -/
  | emptyList {gap} (space : IsGap gap) : Denotes (.value (.arr [])) ('[' :: (gap ++ [']']))
  /-- A list of items. -/
  | list {gap s vs} (space : IsGap gap) (items : Denotes (.items vs) s) :
      Denotes (.value (.arr vs)) ('[' :: (gap ++ (s ++ [']'])))
  /-- An object without fields. -/
  | emptyObject {gap} (space : IsGap gap) :
      Denotes (.value (.obj [])) ('\x7b' :: (gap ++ ['\x7d']))
  /-- An object of fields, of which a later one to the same name wins. -/
  | object {gap s fs} (space : IsGap gap) (members : Denotes (.members fs) s) :
      Denotes (.value (.obj (ofWrites fs))) ('\x7b' :: (gap ++ (s ++ ['\x7d'])))
  /-- The last item of a list. -/
  | lastItem {v s after} (item : Denotes (.value v) s) (space : IsGap after) :
      Denotes (.items [v]) (s ++ after)
  /-- An item of a list that has more. -/
  | item {v vs s after before t} (item : Denotes (.value v) s) (space : IsGap after)
      (space' : IsGap before) (more : Denotes (.items vs) t) :
      Denotes (.items (v :: vs)) (s ++ (after ++ ',' :: (before ++ t)))
  /-- A field. -/
  | field {n ns after before v s} (name : SpellsText n ns) (space : IsGap after)
      (space' : IsGap before) (value : Denotes (.value v) s) :
      Denotes (.field (textOfPoints (joinHalves ns), v))
        ('"' :: (n ++ '"' :: (after ++ ':' :: (before ++ s))))
  /-- The last field of an object. -/
  | lastMember {f s after} (member : Denotes (.field f) s) (space : IsGap after) :
      Denotes (.members [f]) (s ++ after)
  /-- A field of an object that has more. -/
  | member {f fs s after before t} (member : Denotes (.field f) s) (space : IsGap after)
      (space' : IsGap before) (more : Denotes (.members fs) t) :
      Denotes (.members (f :: fs)) (s ++ (after ++ ',' :: (before ++ t)))

/-- Whether a character may begin a part: it is no space, closes nothing and marks no order of
bytes. -/
def Begins (c : Char) : Prop :=
  isSpace c = false ∧ c ≠ ']' ∧ c ≠ '\x7d' ∧ c ≠ '\ufeff'

instance (c : Char) : Decidable (Begins c) :=
  inferInstanceAs (Decidable (_ ∧ _))

theorem begins_of_digit {c : Char} {d : Nat} (h : asciiDigit? c = some d) : Begins c := by
  refine ⟨?_, ?_, ?_, ?_⟩
  · simp only [isSpace, Bool.or_eq_false_iff, beq_eq_false_iff_ne]
    refine ⟨⟨⟨?_, ?_⟩, ?_⟩, ?_⟩ <;> rintro rfl <;> cases h
  all_goals
    rintro rfl
    cases h

/-- What denotes a part begins with a character that may begin one. -/
theorem Denotes.exists_cons {p : Part} {s : List Char} (h : Denotes p s) :
    ∃ c t, s = c :: t ∧ Begins c := by
  induction h with
  | word h =>
    simp only [words, List.mem_cons, List.not_mem_nil, or_false] at h
    rcases h with rfl | rfl | rfl | rfl | rfl | rfl <;> exact ⟨_, _, rfl, by decide⟩
  | number spelled =>
    obtain ⟨c, t, d, digit, rfl | rfl⟩ := spelled.exists_cons
    · exact ⟨c, t, rfl, begins_of_digit digit⟩
    · exact ⟨'-', c :: t, rfl, by decide⟩
  | text | emptyList | list | emptyObject | object | field => exact ⟨_, _, rfl, by decide⟩
  | lastItem _ _ ih | item _ _ _ _ ih | lastMember _ _ ih | member _ _ _ _ ih =>
    obtain ⟨c, t, rfl, begins⟩ := ih
    exact ⟨c, _, rfl, begins⟩

/-- A list is denoted between brackets. -/
theorem Denotes.exists_brackets {vs : List Json} {s : List Char}
    (h : Denotes (.value (.arr vs)) s) : ∃ t, s = '[' :: (t ++ [']']) := by
  generalize part : Part.value (.arr vs) = p at h
  cases h with
  | word h =>
    simp only [words, List.mem_cons, List.not_mem_nil, or_false] at h
    rcases h with rfl | rfl | rfl | rfl | rfl | rfl <;> cases part
  | number spelled => cases spelled <;> cases part
  | @text s ns spelled =>
    have value := Part.value.inj part
    rw [ofPoints] at value
    split at value <;> cases value
  | @emptyList gap => exact ⟨gap, rfl⟩
  | @list gap s => exact ⟨gap ++ s, by rw [List.append_assoc]⟩
  | emptyObject | object | lastItem | item | field | lastMember | member => cases part

/-- Space in front of a part is skipped, and no more than that. -/
theorem Denotes.skipSpace_append {p : Part} {s gap : List Char} (h : Denotes p s)
    (space : IsGap gap) (rest : List Char) : skipSpace (gap ++ (s ++ rest)) = s ++ rest := by
  obtain ⟨c, t, rfl, begins⟩ := h.exists_cons
  rw [Json.skipSpace_append space, List.cons_append, skipSpace_cons begins.1]

/-- Space and a sign behind a number end it. -/
theorem endsNumber_append {gap : List Char} (space : IsGap gap) {c : Char}
    (h : asciiDigit? c = none ∧ c ≠ '.' ∧ c ≠ 'e' ∧ c ≠ 'E') (t : List Char) :
    EndsNumber (gap ++ c :: t) := by
  intro e first
  cases gap with
  | nil =>
    cases first
    exact h
  | cons g gap =>
    cases first
    have blank := space e List.mem_cons_self
    simp only [isSpace, Bool.or_eq_true, beq_iff_eq] at blank
    rcases blank with ((rfl | rfl) | rfl) | rfl <;> decide

/-! ### Reading -/

/-- Whether a part is read in front of more text, where the steps are bounded by three for a
character; the items of a list and the fields of an object are read up to its end. -/
def Reads : Part → List Char → Prop
  | .value v, s => ∀ fuel rest, 3 * s.length ≤ fuel → EndsNumber rest →
      value fuel (s ++ rest) = .ok (v, rest)
  | .items vs, s => ∀ fuel rest, 3 * s.length + 2 ≤ fuel →
      items fuel (s ++ ']' :: rest) = .ok (vs, rest)
  | .field f, s => ∀ fuel rest, 3 * s.length ≤ fuel → EndsNumber rest →
      field fuel (s ++ rest) = .ok (f, rest)
  | .members fs, s => ∀ fuel rest, 3 * s.length + 2 ≤ fuel →
      members fuel (s ++ '\x7d' :: rest) = .ok (fs, rest)

/-- A bound that allows for a text with at least one character allows for one step. -/
theorem exists_fuel {c : Char} {s : List Char} {fuel : Nat} (h : 3 * (c :: s).length ≤ fuel) :
    ∃ k, fuel = k + 1 ∧ 3 * s.length + 2 ≤ k := by
  rw [List.length_cons] at h
  exact ⟨fuel - 1, by omega, by omega⟩

theorem Reads.word {w : String × Json} (h : w ∈ words) : Reads (.value w.2) w.1.toList := by
  intro fuel rest enough _
  obtain ⟨c, t, start, -⟩ := (Denotes.word h).exists_cons
  rw [start] at enough
  obtain ⟨fuel, rfl, -⟩ := exists_fuel enough
  simp only [words, List.mem_cons, List.not_mem_nil, or_false] at h
  rcases h with rfl | rfl | rfl | rfl | rfl | rfl <;> rfl

theorem Reads.number {s : List Char} {v : Json} (h : SpellsNumber s v) : Reads (.value v) s := by
  intro fuel rest enough stop
  have read := number_of_spellsNumber h stop
  obtain ⟨c, t, d, digit, start⟩ := h.exists_cons
  obtain ⟨fuel, rfl⟩ : ∃ k, fuel = k + 1 := by
    rcases start with rfl | rfl <;> exact ⟨fuel - 1, by rw [List.length_cons] at enough; omega⟩
  have start' : s ++ rest = c :: (t ++ rest) ∨ s ++ rest = '-' :: c :: (t ++ rest) :=
    start.imp (congrArg (· ++ rest)) (congrArg (· ++ rest))
  rw [value_of_digit digit start', read]

theorem Reads.text {s : List Char} {ns : List Nat} (h : SpellsText s ns) :
    Reads (.value (ofPoints (joinHalves ns))) ('"' :: (s ++ ['"'])) := by
  intro fuel rest enough _
  obtain ⟨fuel, rfl, -⟩ := exists_fuel enough
  rw [List.cons_append, value, textBody, List.append_assoc]
  dsimp only [List.cons_append, List.nil_append]
  rw [textPoints_of_spellsText h]
  rfl

theorem Reads.emptyList {gap : List Char} (space : IsGap gap) :
    Reads (.value (.arr [])) ('[' :: (gap ++ [']'])) := by
  intro fuel rest enough _
  obtain ⟨fuel, rfl, -⟩ := exists_fuel enough
  rw [List.cons_append, List.append_assoc, value, skipSpace_append space]
  rfl

theorem Reads.list {gap s : List Char} {vs : List Json} (space : IsGap gap)
    (denotes : Denotes (.items vs) s) (h : Reads (.items vs) s) :
    Reads (.value (.arr vs)) ('[' :: (gap ++ (s ++ [']']))) := by
  intro fuel rest enough _
  obtain ⟨fuel, rfl, bound⟩ := exists_fuel enough
  simp only [List.length_append] at bound
  have read := h fuel rest (by omega)
  have skipped := denotes.skipSpace_append space (']' :: rest)
  obtain ⟨c, t, rfl, begins⟩ := denotes.exists_cons
  simp only [List.cons_append, List.append_assoc, List.nil_append] at read skipped ⊢
  rw [value, skipped]
  split
  · next h => exact absurd (List.cons.inj h).1 begins.2.1
  · rw [read]
    rfl

theorem Reads.emptyObject {gap : List Char} (space : IsGap gap) :
    Reads (.value (.obj [])) ('\x7b' :: (gap ++ ['\x7d'])) := by
  intro fuel rest enough _
  obtain ⟨fuel, rfl, -⟩ := exists_fuel enough
  rw [List.cons_append, List.append_assoc, value, skipSpace_append space]
  rfl

theorem Reads.object {gap s : List Char} {fs : Fields} (space : IsGap gap)
    (denotes : Denotes (.members fs) s) (h : Reads (.members fs) s) :
    Reads (.value (.obj (ofWrites fs))) ('\x7b' :: (gap ++ (s ++ ['\x7d']))) := by
  intro fuel rest enough _
  obtain ⟨fuel, rfl, bound⟩ := exists_fuel enough
  simp only [List.length_append] at bound
  have read := h fuel rest (by omega)
  have skipped := denotes.skipSpace_append space ('\x7d' :: rest)
  obtain ⟨c, t, rfl, begins⟩ := denotes.exists_cons
  simp only [List.cons_append, List.append_assoc, List.nil_append] at read skipped ⊢
  rw [value, skipped]
  split
  · next h => exact absurd (List.cons.inj h).1 begins.2.2.1
  · rw [read]
    rfl

theorem Reads.lastItem {s after : List Char} {v : Json} (h : Reads (.value v) s)
    (space : IsGap after) : Reads (.items [v]) (s ++ after) := by
  intro fuel rest enough
  obtain ⟨fuel, rfl⟩ : ∃ k, fuel = k + 1 := ⟨fuel - 1, by omega⟩
  rw [List.length_append] at enough
  have read := h fuel (after ++ ']' :: rest) (by omega) (endsNumber_append space (by decide) rest)
  rw [List.append_assoc, items, read]
  dsimp only
  rw [skipSpace_append space]
  rfl

theorem Reads.item {s after before t : List Char} {v : Json} {vs : List Json}
    (h : Reads (.value v) s) (space : IsGap after) (space' : IsGap before)
    (denotes : Denotes (.items vs) t) (more : Reads (.items vs) t) :
    Reads (.items (v :: vs)) (s ++ (after ++ ',' :: (before ++ t))) := by
  intro fuel rest enough
  obtain ⟨fuel, rfl⟩ : ∃ k, fuel = k + 1 := ⟨fuel - 1, by omega⟩
  simp only [List.length_append, List.length_cons] at enough
  have read := h fuel (after ++ ',' :: (before ++ (t ++ ']' :: rest))) (by omega)
    (endsNumber_append space (by decide) _)
  have read' := more fuel rest (by omega)
  simp only [List.append_assoc, List.cons_append]
  rw [items, read]
  dsimp only
  rw [skipSpace_append space, skipSpace_cons (by decide)]
  change (items fuel (skipSpace (before ++ (t ++ ']' :: rest)))).map _ = _
  rw [denotes.skipSpace_append space', read']
  rfl

theorem Reads.field {n after before s : List Char} {ns : List Nat} {v : Json}
    (name : SpellsText n ns) (space : IsGap after) (space' : IsGap before)
    (denotes : Denotes (.value v) s) (h : Reads (.value v) s) :
    Reads (.field (textOfPoints (joinHalves ns), v))
      ('"' :: (n ++ '"' :: (after ++ ':' :: (before ++ s)))) := by
  intro fuel rest enough stop
  obtain ⟨fuel, rfl, bound⟩ := exists_fuel enough
  simp only [List.length_append, List.length_cons] at bound
  have read := h fuel rest (by omega) stop
  simp only [List.append_assoc, List.cons_append]
  rw [Json.field, nameBody, textPoints_of_spellsText name]
  dsimp only [Except.map]
  rw [skipSpace_append space, skipSpace_cons (by decide)]
  change (value fuel (skipSpace (before ++ (s ++ rest)))).map _ = _
  rw [denotes.skipSpace_append space', read]
  rfl

theorem Reads.lastMember {s after : List Char} {f : String × Json} (h : Reads (.field f) s)
    (space : IsGap after) : Reads (.members [f]) (s ++ after) := by
  intro fuel rest enough
  obtain ⟨fuel, rfl⟩ : ∃ k, fuel = k + 1 := ⟨fuel - 1, by omega⟩
  rw [List.length_append] at enough
  have read := h fuel (after ++ '\x7d' :: rest) (by omega)
    (endsNumber_append space (by decide) rest)
  rw [List.append_assoc, members, read]
  dsimp only
  rw [skipSpace_append space]
  rfl

theorem Reads.member {s after before t : List Char} {f : String × Json} {fs : Fields}
    (h : Reads (.field f) s) (space : IsGap after) (space' : IsGap before)
    (denotes : Denotes (.members fs) t) (more : Reads (.members fs) t) :
    Reads (.members (f :: fs)) (s ++ (after ++ ',' :: (before ++ t))) := by
  intro fuel rest enough
  obtain ⟨fuel, rfl⟩ : ∃ k, fuel = k + 1 := ⟨fuel - 1, by omega⟩
  simp only [List.length_append, List.length_cons] at enough
  have read := h fuel (after ++ ',' :: (before ++ (t ++ '\x7d' :: rest))) (by omega)
    (endsNumber_append space (by decide) _)
  have read' := more fuel rest (by omega)
  simp only [List.append_assoc, List.cons_append]
  rw [members, read]
  dsimp only
  rw [skipSpace_append space, skipSpace_cons (by decide)]
  change (members fuel (skipSpace (before ++ (t ++ '\x7d' :: rest)))).map _ = _
  rw [denotes.skipSpace_append space', read']
  rfl

/-- What denotes a part is read as it. -/
theorem reads_of_denotes {p : Part} {s : List Char} (h : Denotes p s) : Reads p s := by
  induction h with
  | word h => exact .word h
  | number spelled => exact .number spelled
  | text spelled => exact .text spelled
  | emptyList space => exact .emptyList space
  | list space items ih => exact .list space items ih
  | emptyObject space => exact .emptyObject space
  | object space members ih => exact .object space members ih
  | lastItem _ space ih => exact .lastItem ih space
  | item _ space space' more ih ih' => exact .item ih space space' more ih'
  | field name space space' value ih => exact .field name space space' value ih
  | lastMember _ space ih => exact .lastMember ih space
  | member _ space space' more ih ih' => exact .member ih space space' more ih'

/-- A document of a value, with space around it, reads as the value. -/
theorem readChars_of_denotes {before s after : List Char} {v : Json} (h : Denotes (.value v) s)
    (space : IsGap before) (space' : IsGap after) : readChars (before ++ (s ++ after)) = .ok v := by
  have skipped := h.skipSpace_append space after
  have tail : skipSpace after = [] := by
    have all := skipSpace_append space' []
    rwa [List.append_nil] at all
  have ends : EndsNumber after := by
    have all := endsNumber_append (c := ',') space' (by decide) []
    intro c first
    refine all c ?_
    cases after with
    | nil => cases first
    | cons => exact first
  have read := reads_of_denotes h (3 * (before ++ (s ++ after)).length + 3) after
    (by simp only [List.length_append]; omega) ends
  rw [readChars]
  · rw [skipped, read]
    dsimp only
    rw [tail]
  · intro rest mark
    obtain ⟨c, t, rfl, begins⟩ := h.exists_cons
    cases before with
    | nil => exact begins.2.2.2 (List.cons.inj mark).1
    | cons b before =>
      have blank := space b List.mem_cons_self
      rw [(List.cons.inj mark).1] at blank
      cases blank

/-- A whole number with more digits than the limit is refused for their count. -/
theorem readChars_of_tooManyDigits {s : List Char} {ds : List Nat} (h : SpellsWhole s ds)
    (long : digitLimit < ds.length) :
    readChars s = .error ⟨.tooManyDigits ds.length, s.length⟩ := by
  have stop : EndsNumber [] := nofun
  have read := number_append .absent h .absent .absent stop
  simp only [List.nil_append, List.append_nil, List.isEmpty_nil, Option.isNone_none, Bool.and_self,
    if_true, if_pos long] at read
  obtain ⟨c, t, d, rfl, digit⟩ := h.exists_cons
  have begins := begins_of_digit digit
  rw [readChars]
  · rw [skipSpace_cons begins.1, value_of_digit digit (.inl rfl), read]
    rfl
  · intro rest mark
    exact begins.2.2.2 (List.cons.inj mark).1

end ProofRelay.Json
