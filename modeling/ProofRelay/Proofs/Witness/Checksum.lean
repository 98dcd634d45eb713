import Mathlib.Data.List.Forall2
import ProofRelay.Proofs.World.Conduct
import ProofRelay.Witness.Checksum

/-!
# Which checksum an output gives

An output gives the checksum of its first line that is labelled with one.  If no line is, it gives
what follows the first sentence that names one, and if there is no such sentence either, the output
is refused as a whole.  So a label wins over a sentence wherever the two stand.

The two forms are told here by how a text is put together: gaps of spaces and tabs, a word that is
read whatever the case of its letters, and a value, which is as long as a text without blank
characters can be at its place.  Since a gap ends where its first other character stands, and a
value at the first blank one, each form fixes its value.

## Main definitions

* `Checksum.ReadsAs`, `Checksum.Spells` : characters and texts that are read as a word.
* `Checksum.Leads` : the value that a text leads to behind a gap.
* `Checksum.IsLabelled`, `Checksum.FirstLabelled` : labelled lines, and the first of them.
* `Checksum.IsNamed`, `Checksum.FirstNamed` : sentences that name a checksum, and the first of them.
* `Checksum.IsGiven` : the checksum that a text gives.
* `Checksum.Reading` : what is read from an output.

## Main results

* `Checksum.ofLine?_eq_some_iff`, `Checksum.ofSentence?_eq_some_iff` : what the two searches find.
* `Checksum.read_reading` : what every output gives.
-/

namespace ProofRelay.Checksum

open ProofRelay.Text

/-! ### Words -/

/-- Whether a character is read as a letter or sign of a word in lower case: the case of a letter
does not matter, and four letters outside ASCII have the case of one inside. -/
inductive ReadsAs : Char → Char → Prop
  /-- The character itself. -/
  | itself (w : Char) : ReadsAs w w
  /-- The upper case of a letter. -/
  | upper {w : Char} (letter : w.isLower = true) : ReadsAs w.toUpper w
  /-- The sign of a unit of temperature. -/
  | kelvin : ReadsAs '\u212a' 'k'
  /-- The long letter. -/
  | longS : ReadsAs '\u017f' 's'
  /-- The upper case with a dot. -/
  | dotted : ReadsAs '\u0130' 'i'
  /-- The lower case without a dot. -/
  | dotless : ReadsAs '\u0131' 'i'

/-- Whether a text is read as a word. -/
def Spells (text word : List Char) : Prop :=
  List.Forall₂ ReadsAs text word

/-- The words in the forms of a checksum. -/
def labelWord : List Char := "checksum".toList

/-- The sentence in front of a checksum. -/
def sentence : List Char := "hash of the file is:".toList

/-- The words are in lower case. -/
theorem fold_of_mem_words {w : Char} (h : w ∈ labelWord ∨ w ∈ sentence) : fold w = w := by
  have all : ((labelWord ++ sentence).all fun w => fold w == w) = true := by decide
  exact beq_iff_eq.mp (List.all_eq_true.mp all w (List.mem_append.mpr h))

theorem eq_of_toNat {c d : Char} (h : c.toNat = d.toNat) : c = d :=
  Char.ext (UInt32.toNat_inj.mp h)

/-- In ASCII a character is in lower case, or the upper case of its lower case. -/
theorem toLower_cases (c : Char) :
    c.toLower = c ∨ c.toLower.isLower = true ∧ c.toLower.toUpper = c := by
  by_cases ascii : c.toNat < 0x80
  · have all : ∀ n : Fin 0x80, (Char.ofNat n).toLower = Char.ofNat n ∨
        (Char.ofNat n).toLower.isLower = true ∧ (Char.ofNat n).toLower.toUpper = Char.ofNat n := by
      decide
    have here := all ⟨c.toNat, ascii⟩
    rwa [Char.ofNat_toNat] at here
  · refine .inl (dif_neg ?_)
    rintro ⟨-, below⟩
    have bound : c.toNat ≤ 0x5a := UInt32.le_iff_toNat_le.mp below
    omega

/-- A letter in lower case is compared as its upper case is. -/
theorem fold_toUpper {w : Char} (letter : w.isLower = true) : fold w.toUpper = w := by
  obtain ⟨low, high⟩ := Bool.and_eq_true_iff.mp letter
  have bounds : 0x61 ≤ w.toNat ∧ w.toNat ≤ 0x7a :=
    ⟨UInt32.le_iff_toNat_le.mp (of_decide_eq_true low),
      UInt32.le_iff_toNat_le.mp (of_decide_eq_true high)⟩
  have all : ∀ n : Fin 26, fold (Char.ofNat (0x61 + n)).toUpper = Char.ofNat (0x61 + n) := by
    decide
  have place : w = Char.ofNat (0x61 + (w.toNat - 0x61)) := by
    rw [Nat.add_sub_cancel' bounds.1, Char.ofNat_toNat]
  rw [place]
  exact all ⟨w.toNat - 0x61, by omega⟩

/-- Every character is read as the one that it is compared as. -/
theorem readsAs_fold (c : Char) : ReadsAs c (fold c) := by
  rw [fold]
  split
  · next kelvin =>
    obtain rfl : c = '\u212a' := eq_of_toNat kelvin
    exact .kelvin
  · split
    · next longS =>
      obtain rfl : c = '\u017f' := eq_of_toNat longS
      exact .longS
    · split
      · next withI =>
        rcases withI with dotted | dotless
        · obtain rfl : c = '\u0130' := eq_of_toNat dotted
          exact .dotted
        · obtain rfl : c = '\u0131' := eq_of_toNat dotless
          exact .dotless
      · rcases toLower_cases c with lower | ⟨letter, upper⟩
        · rw [lower]
          exact .itself c
        · have read := ReadsAs.upper letter
          rwa [upper] at read

/-- A character is compared as a character in lower case exactly if it is read as it. -/
theorem fold_eq_iff {c w : Char} (lower : fold w = w) : fold c = w ↔ ReadsAs c w := by
  constructor
  · rintro rfl
    exact readsAs_fold c
  · intro read
    cases read with
    | itself => exact lower
    | upper letter => exact fold_toUpper letter
    | kelvin | longS | dotted | dotless => rfl

/-- What is found behind a word is what stands behind a text that is read as the word. -/
theorem afterWord?_eq_some_iff {word s rest : List Char} (lower : ∀ w ∈ word, fold w = w) :
    afterWord? word s = some rest ↔ ∃ text, s = text ++ rest ∧ Spells text word := by
  induction word generalizing s with
  | nil =>
    rw [afterWord?, Option.some.injEq]
    constructor
    · rintro rfl
      exact ⟨[], rfl, .nil⟩
    · rintro ⟨text, rfl, spells⟩
      cases spells
      rfl
  | cons w word ih =>
    rw [List.forall_mem_cons] at lower
    cases s with
    | nil =>
      rw [afterWord?]
      constructor
      · rintro ⟨⟩
      · rintro ⟨text, split, spells⟩
        cases spells
        cases split
    | cons c s =>
      rw [afterWord?]
      constructor
      · intro found
        split at found
        · next same =>
          obtain ⟨text, rfl, spells⟩ := (ih lower.2).mp found
          exact ⟨c :: text, rfl, .cons ((fold_eq_iff lower.1).mp same) spells⟩
        · cases found
      · rintro ⟨text, split, spells⟩
        cases spells with
        | cons read spells =>
          obtain ⟨rfl, rfl⟩ := List.cons.inj split
          rw [if_pos ((fold_eq_iff lower.1).mpr read)]
          exact (ih lower.2).mpr ⟨_, rfl, spells⟩

/-! ### Gaps and values -/

/-- Whether a text is a gap of spaces and tabs. -/
def IsGap (s : List Char) : Prop :=
  ∀ c ∈ s, c = ' ' ∨ c = '\t'

/-- The value that a text leads to behind a gap: not empty, without blank characters, and as long as
it can be. -/
def Leads (s v : List Char) : Prop :=
  ∃ gap rest, s = gap ++ (v ++ rest) ∧ IsGap gap ∧ v ≠ [] ∧ (∀ c ∈ v, isBlank c = false) ∧
    ∀ c, rest.head? = some c → isBlank c = true

/-- The longest beginning of a text with characters of one kind. -/
theorem takeWhile_eq_iff {p : Char → Bool} {s v : List Char} : s.takeWhile p = v ↔
    ∃ rest, s = v ++ rest ∧ (∀ c ∈ v, p c = true) ∧ ∀ c, rest.head? = some c → p c = false := by
  constructor
  · rintro rfl
    refine ⟨s.dropWhile p, List.takeWhile_append_dropWhile.symm, ?_, fun c first => ?_⟩
    · exact List.all_eq_true.mp List.all_takeWhile
    · have ends := List.head?_dropWhile_not p s
      rw [first] at ends
      simpa using ends
  · rintro ⟨rest, rfl, all, ends⟩
    rw [List.takeWhile_append_of_pos all]
    cases rest with
    | nil => rw [List.takeWhile_nil, List.append_nil]
    | cons c rest =>
      rw [List.takeWhile_cons_of_neg (by simp [ends c rfl]), List.append_nil]

/-- A text is a gap and what is left without it. -/
theorem exists_gap (s : List Char) : ∃ gap, s = gap ++ skipBlanks s ∧ IsGap gap := by
  refine ⟨s.takeWhile fun c => c == ' ' || c == '\t', List.takeWhile_append_dropWhile.symm, ?_⟩
  have all := List.all_eq_true.mp
    (List.all_takeWhile (p := fun c => c == ' ' || c == '\t') (l := s))
  simpa [IsGap] using all

/-- A gap is left out up to the first other character. -/
theorem skipBlanks_append {gap : List Char} (h : IsGap gap) {s : List Char}
    (ends : ∀ c, s.head? = some c → c ≠ ' ' ∧ c ≠ '\t') : skipBlanks (gap ++ s) = s := by
  rw [skipBlanks, List.dropWhile_append_of_pos (by simpa [IsGap] using h)]
  cases s with
  | nil => rfl
  | cons c s => rw [List.dropWhile_cons_of_neg (by simpa using ends c rfl)]

/-- A character that is not blank is no space and no tab. -/
theorem ne_of_isBlank_eq_false {c : Char} (h : isBlank c = false) : c ≠ ' ' ∧ c ≠ '\t' := by
  constructor
  · rintro rfl
    cases h
  · rintro rfl
    cases h

/-- The value behind a gap. -/
theorem valueRun?_eq_some_iff {s v : List Char} : valueRun? s = some v ↔ Leads s v := by
  have run : valueRun? s = some v ↔ (skipBlanks s).takeWhile (!isBlank ·) = v ∧ v ≠ [] := by
    rw [valueRun?]
    split
    · next none =>
      rw [none]
      simp +contextual [eq_comm]
    · next full =>
      rw [Option.some.injEq]
      constructor
      · rintro rfl
        exact ⟨rfl, full⟩
      · exact And.left
  rw [run, takeWhile_eq_iff]
  constructor
  · rintro ⟨⟨rest, split, sound, ends⟩, full⟩
    obtain ⟨gap, whole, isGap⟩ := exists_gap s
    rw [split] at whole
    exact ⟨gap, rest, whole, isGap, full, by simpa using sound, by simpa using ends⟩
  · rintro ⟨gap, rest, rfl, isGap, full, sound, ends⟩
    have left : skipBlanks (gap ++ (v ++ rest)) = v ++ rest := by
      refine skipBlanks_append isGap fun c first => ne_of_isBlank_eq_false (sound c ?_)
      cases v with
      | nil => exact absurd rfl full
      | cons d v =>
        obtain rfl := Option.some.inj first
        exact List.mem_cons_self
    exact ⟨⟨rest, left, by simpa using sound, by simpa using ends⟩, full⟩

/-! ### Labelled lines -/

/-- Whether a line is labelled with a checksum. -/
def IsLabelled (line v : List Char) : Prop :=
  ∃ gap word gap' rest, line = gap ++ (word ++ (gap' ++ ':' :: rest)) ∧ IsGap gap ∧
    Spells word labelWord ∧ IsGap gap' ∧ Leads rest v

/-- The checksum of the first labelled line of a text. -/
def FirstLabelled (text v : List Char) : Prop :=
  ∃ before line after, lines text = before ++ line :: after ∧ IsLabelled line v ∧
    ∀ earlier ∈ before, ∀ u, ¬ IsLabelled earlier u

/-- A text that is read as a word does not begin with a gap if the word does not. -/
theorem Spells.ne_of_head? {text word : List Char} (spells : Spells text word)
    (lower : ∀ w ∈ word, fold w = w) (letters : ∀ w, word.head? = some w → w ≠ ' ' ∧ w ≠ '\t')
    (full : word ≠ []) (s : List Char) : ∀ c, (text ++ s).head? = some c → c ≠ ' ' ∧ c ≠ '\t' := by
  cases spells with
  | nil => exact absurd rfl full
  | @cons c w text word read spells =>
    rintro _ ⟨⟩
    have same : fold c = w := (fold_eq_iff (lower w List.mem_cons_self)).mpr read
    have other := letters w rfl
    rw [← same] at other
    constructor
    · rintro rfl
      exact other.1 rfl
    · rintro rfl
      exact other.2 rfl

/-- The checksum of a line is the one that it is labelled with. -/
theorem ofLine?_eq_some_iff {line v : List Char} : ofLine? line = some v ↔ IsLabelled line v := by
  have lower : ∀ w ∈ labelWord, fold w = w := fun _ h => fold_of_mem_words (.inl h)
  have letters : ∀ w, labelWord.head? = some w → w ≠ ' ' ∧ w ≠ '\t' := by
    rintro _ ⟨⟩
    decide
  have parts : ofLine? line = some v ↔ ∃ behind rest,
      afterWord? labelWord (skipBlanks line) = some behind ∧ skipBlanks behind = ':' :: rest ∧
        valueRun? rest = some v := by
    rw [ofLine?]
    change (afterWord? labelWord (skipBlanks line)).bind _ = _ ↔ _
    cases afterWord? labelWord (skipBlanks line) with
    | none => simp
    | some behind =>
      rw [Option.bind_some]
      split
      · next rest colon => simp [colon]
      · next other =>
        constructor
        · rintro ⟨⟩
        · rintro ⟨_, rest, ⟨⟩, colon, -⟩
          exact absurd colon (other rest)
  rw [parts]
  constructor
  · rintro ⟨behind, rest, found, colon, value⟩
    obtain ⟨gap, whole, isGap⟩ := exists_gap line
    obtain ⟨word, split, spells⟩ := (afterWord?_eq_some_iff lower).mp found
    obtain ⟨gap', whole', isGap'⟩ := exists_gap behind
    refine ⟨gap, word, gap', rest, ?_, isGap, spells, isGap', valueRun?_eq_some_iff.mp value⟩
    rw [← colon, ← whole', ← split]
    exact whole
  · rintro ⟨gap, word, gap', rest, rfl, isGap, spells, isGap', leads⟩
    refine ⟨gap' ++ ':' :: rest, rest, ?_, ?_, valueRun?_eq_some_iff.mpr leads⟩
    · rw [skipBlanks_append isGap (spells.ne_of_head? lower letters (by decide) _)]
      exact (afterWord?_eq_some_iff lower).mpr ⟨word, rfl, spells⟩
    · exact skipBlanks_append isGap' (by rintro _ ⟨⟩; decide)

/-- The checksum of the lines of a text is the one of the first labelled line. -/
theorem ofLines?_eq_some_iff {text v : List Char} :
    ofLines? text = some v ↔ FirstLabelled text v := by
  have bare : ∀ earlier, ofLine? earlier = none ↔ ∀ u, ¬ IsLabelled earlier u := by
    intro earlier
    simp only [Option.eq_none_iff_forall_ne_some, ne_eq, ofLine?_eq_some_iff]
  rw [ofLines?, List.findSome?_eq_some_iff]
  simp only [FirstLabelled, ofLine?_eq_some_iff, bare]

theorem ofLines?_eq_none_iff {text : List Char} :
    ofLines? text = none ↔ ∀ line ∈ lines text, ∀ v, ¬ IsLabelled line v := by
  rw [ofLines?, List.findSome?_eq_none_iff]
  simp only [Option.eq_none_iff_forall_ne_some, ne_eq, ofLine?_eq_some_iff]

/-! ### Sentences -/

/-- Whether a word begins or ends between two parts of a text. -/
def AtBoundary (before after : List Char) : Prop :=
  before.getLast?.any isWordChar ≠ after.head?.any isWordChar

/-- Whether a sentence that names a checksum begins between two parts of a text. -/
def IsNamed (before after v : List Char) : Prop :=
  AtBoundary before after ∧ ∃ text rest, after = text ++ rest ∧ Spells text sentence ∧ Leads rest v

/-- The checksum behind the first sentence of a text that names one. -/
def FirstNamed (text v : List Char) : Prop :=
  ∃ before after, text = before ++ after ∧ IsNamed before after v ∧
    ∀ before' after' u, text = before' ++ after' → IsNamed before' after' u →
      before.length ≤ before'.length

/-- What is read as the sentence begins with a letter. -/
theorem Spells.isWordChar_of_sentence {text : List Char} (spells : Spells text sentence)
    (rest : List Char) : (text ++ rest).head?.any isWordChar = true := by
  cases spells with
  | @cons c _ text _ read _ =>
    change isWordChar c = true
    cases read with
    | itself => decide
    | upper => decide

/-- Where a sentence names a checksum, no part of a word stands in front of it. -/
theorem isNamed_iff {before after v : List Char} : IsNamed before after v ↔
    before.getLast?.any isWordChar = false ∧
      (afterWord? sentence after).bind valueRun? = some v := by
  have lower : ∀ w ∈ sentence, fold w = w := fun _ h => fold_of_mem_words (.inr h)
  simp only [IsNamed, Option.bind_eq_some_iff, valueRun?_eq_some_iff, afterWord?_eq_some_iff lower]
  constructor
  · rintro ⟨boundary, text, rest, rfl, spells, leads⟩
    rw [AtBoundary, spells.isWordChar_of_sentence, ne_eq, Bool.not_eq_true] at boundary
    exact ⟨boundary, rest, ⟨text, rfl, spells⟩, leads⟩
  · rintro ⟨outside, rest, ⟨text, rfl, spells⟩, leads⟩
    refine ⟨?_, text, rest, rfl, spells, leads⟩
    rw [AtBoundary, spells.isWordChar_of_sentence, outside]
    exact Bool.false_ne_true

/-- Where nothing is left, no sentence names a checksum. -/
theorem not_isNamed_nil {before v : List Char} : ¬ IsNamed before [] v := by
  rintro ⟨-, text, rest, empty, spells, -⟩
  obtain ⟨rfl, -⟩ := List.append_eq_nil_iff.mp empty.symm
  have same : sentence = [] := List.forall₂_nil_left_iff.mp spells
  exact absurd same (by decide)

/-- The search looks at each place before the ones behind it. -/
theorem ofSentence?_cons (inWord : Bool) (c : Char) (s : List Char) :
    ofSentence? inWord (c :: s) =
      (if inWord then none else (afterWord? sentence (c :: s)).bind valueRun?).or
        (ofSentence? (isWordChar c) s) := by
  have named : "hash of the file is:".toList = sentence := rfl
  simp only [ofSentence?]
  rw [named]
  cases inWord with
  | true => rfl
  | false =>
    rw [if_neg Bool.false_ne_true]
    generalize (afterWord? sentence (c :: s)).bind valueRun? = here
    cases here with
    | none => rfl
    | some v => rfl

/-- The search from a place on, in front of which `before` stands, finds the first sentence that
names a checksum at or behind the place. -/
theorem ofSentence?_eq_some_iff {before s v : List Char} :
    ofSentence? (before.getLast?.any isWordChar) s = some v ↔
      ∃ between after, s = between ++ after ∧ IsNamed (before ++ between) after v ∧
        ∀ between' after' u, s = between' ++ after' → IsNamed (before ++ between') after' u →
          between.length ≤ between'.length := by
  induction s generalizing before with
  | nil =>
    rw [ofSentence?]
    constructor
    · rintro ⟨⟩
    · rintro ⟨between, after, empty, named, -⟩
      obtain ⟨rfl, rfl⟩ := List.append_eq_nil_iff.mp empty.symm
      exact absurd named not_isNamed_nil
  | cons c s ih =>
    have here : ∀ u, (if before.getLast?.any isWordChar = true then none
        else (afterWord? sentence (c :: s)).bind valueRun?) = some u ↔
          IsNamed before (c :: s) u := by
      intro u
      rw [isNamed_iff]
      split
      · next inside => simp [inside]
      · next outside => simp [outside]
    have next := @ih (before ++ [c])
    rw [List.getLast?_concat, Option.any_some] at next
    rw [ofSentence?_cons, Option.or_eq_some_iff, Option.eq_none_iff_forall_ne_some, next]
    simp only [ne_eq, here]
    constructor
    · rintro (named | ⟨bare, between, after, rfl, named, first⟩)
      · exact ⟨[], c :: s, rfl, by rwa [List.append_nil], fun _ _ _ _ _ => Nat.zero_le _⟩
      · refine ⟨c :: between, after, rfl, by rwa [List.append_cons], ?_⟩
        rintro between' after' u split theirs
        rcases List.cons_eq_append_iff.mp split with ⟨rfl, rfl⟩ | ⟨between', rfl, tail⟩
        · rw [List.append_nil] at theirs
          exact absurd theirs (bare u)
        · rw [List.append_cons] at theirs
          exact Nat.succ_le_succ (first between' after' u tail theirs)
    · rintro ⟨between, after, split, named, first⟩
      rcases List.cons_eq_append_iff.mp split with ⟨rfl, rfl⟩ | ⟨between, rfl, tail⟩
      · rw [List.append_nil] at named
        exact .inl named
      · rw [List.append_cons] at named
        refine .inr ⟨fun u theirs => ?_, between, after, tail, named, ?_⟩
        · -- A sentence at this place would be in front of the first one.
          have front := first [] (c :: s) u rfl (by rwa [List.append_nil])
          exact absurd front (Nat.not_succ_le_zero _)
        · intro between' after' u tail' theirs
          refine Nat.le_of_succ_le_succ (first (c :: between') after' u ?_ ?_)
          · rw [tail', List.cons_append]
          · rwa [List.append_cons]

/-- The search of a whole text finds the first sentence that names a checksum. -/
theorem ofSentence?_false_eq_some_iff {text v : List Char} :
    ofSentence? false text = some v ↔ FirstNamed text v :=
  @ofSentence?_eq_some_iff [] text v

/-! ### Outputs -/

/-- Whether a text gives a checksum: with its first labelled line, or, if no line is labelled, with
its first sentence. -/
def IsGiven (text v : List Char) : Prop :=
  FirstLabelled text v ∨ (∀ line ∈ lines text, ∀ u, ¬ IsLabelled line u) ∧ FirstNamed text v

/-- A text with a labelled line has a first one. -/
theorem exists_firstLabelled {text line u : List Char} (present : line ∈ lines text)
    (labelled : IsLabelled line u) : ∃ v, FirstLabelled text v := by
  cases found : ofLines? text with
  | none => exact absurd labelled (ofLines?_eq_none_iff.mp found line present u)
  | some v => exact ⟨v, ofLines?_eq_some_iff.mp found⟩

/-- The first of two searches in order gives a checksum. -/
theorem isGiven_iff {text v : List Char} :
    IsGiven text v ↔ (ofLines? text).or (ofSentence? false text) = some v := by
  rw [IsGiven, Option.or_eq_some_iff, ofLines?_eq_some_iff, ofLines?_eq_none_iff,
    ofSentence?_false_eq_some_iff]

/-- A text gives at most one checksum. -/
theorem IsGiven.unique {text v u : List Char} (given : IsGiven text v) (other : IsGiven text u) :
    v = u := by
  rw [isGiven_iff] at given other
  exact Option.some.inj (given.symm.trans other)

/-- A value that a text leads to has a character, and none that is blank. -/
theorem Leads.tidy {s v : List Char} (leads : Leads s v) :
    v ≠ [] ∧ ∀ c ∈ v, isBlank c = false := by
  obtain ⟨_, _, -, -, full, sound, -⟩ := leads
  exact ⟨full, sound⟩

/-- A checksum that a text gives has a character, and none that is blank. -/
theorem IsGiven.tidy {text v : List Char} (given : IsGiven text v) :
    v ≠ [] ∧ ∀ c ∈ v, isBlank c = false := by
  rcases given with ⟨_, _, _, -, labelled, -⟩ | ⟨-, _, _, -, named, -⟩
  · obtain ⟨_, _, _, _, -, -, -, -, leads⟩ := labelled
    exact leads.tidy
  · obtain ⟨-, _, _, -, -, leads⟩ := named
    exact leads.tidy

/-- The fault of an output that gives no checksum, which carries the output. -/
def noneGiven (output : String) : Fault :=
  .stage (.withOutput .checksum "no checksum line in checksum tool output" output)

/-- What the two searches find in order is what is read. -/
theorem read_eq (output : String) : read output =
    match (ofLines? output.toList).or (ofSentence? false output.toList) with
    | some v => .ok (String.ofList v)
    | none => .error (noneGiven output) := by
  rw [read]
  cases ofLines? output.toList with
  | some v => rfl
  | none =>
    cases ofSentence? false output.toList with
    | some v => rfl
    | none => rfl

/-- What an output gives. -/
structure Reading (output : String) : Prop where
  /-- The lines are the pieces between the line feeds of the output. -/
  cut : ['\n'].intercalate (lines output.toList) = output.toList ∧
    ∀ line ∈ lines output.toList, '\n' ∉ line
  /-- The value is the checksum that the text gives. -/
  given : ∀ v, read output = .ok v ↔ IsGiven output.toList v.toList
  /-- The output is refused, and carried by the fault, exactly if it gives none. -/
  refused : ∀ f, read output = .error f ↔
    f = noneGiven output ∧ ∀ v, ¬ IsGiven output.toList v
  /-- A value has a character, and none that is blank. -/
  tidy : ∀ v, read output = .ok v → v ≠ "" ∧ ∀ c ∈ v.toList, isBlank c = false
  /-- A labelled line gives its checksum wherever a sentence stands. -/
  labelled : ∀ line ∈ lines output.toList, ∀ u, IsLabelled line u →
    ∃ v, read output = .ok v ∧ FirstLabelled output.toList v.toList

/-- The checksum is read from the first labelled line, or else from the first sentence, and an
output with neither is refused. -/
theorem read_reading (output : String) : Reading output := by
  have given : ∀ v, read output = .ok v ↔ IsGiven output.toList v.toList := by
    intro v
    rw [read_eq, isGiven_iff]
    split
    · next u found =>
      rw [found, Except.ok.injEq, Option.some.injEq]
      constructor
      · rintro rfl
        exact String.toList_ofList.symm
      · rintro rfl
        exact String.ofList_toList
    · next none =>
      rw [none]
      constructor <;> rintro ⟨⟩
  refine ⟨⟨intercalate_pieces '\n' _, fun line => not_mem_of_mem_pieces '\n' _ line⟩, given,
    fun f => ?_, fun v is => ?_, fun line present u labelled => ?_⟩
  · simp only [isGiven_iff]
    rw [read_eq]
    split
    · next u found =>
      constructor
      · rintro ⟨⟩
      · rintro ⟨-, bare⟩
        exact absurd found (bare u)
    · next none =>
      rw [none, Except.error.injEq, eq_comm]
      constructor
      · intro same
        exact ⟨same, nofun⟩
      · exact And.left
  · obtain ⟨full, sound⟩ := ((given v).mp is).tidy
    refine ⟨?_, sound⟩
    rintro rfl
    exact full rfl
  · obtain ⟨v, first⟩ := exists_firstLabelled present labelled
    refine ⟨String.ofList v, (given _).mpr (.inl ?_), ?_⟩ <;> rwa [String.toList_ofList]

/-- An output with a sentence on its first line, and a label on its second one. -/
def labelledOutput : String :=
  "the hash of the file is: abc\nwitness written\n Checksum\t: 0xf00d (sha256)\n"

/-- The label wins, and its value ends in front of the next blank. -/
theorem read_reading_sample :
    read labelledOutput = .ok "0xf00d" ∧ IsGiven labelledOutput.toList "0xf00d".toList ∧
      lines labelledOutput.toList = ["the hash of the file is: abc".toList,
        "witness written".toList, " Checksum\t: 0xf00d (sha256)".toList, []] := by
  have found : read labelledOutput = .ok "0xf00d" := eq_ok_of_toOption (by decide +kernel)
  exact ⟨found, ((read_reading labelledOutput).given _).mp found, by decide +kernel⟩

end ProofRelay.Checksum
