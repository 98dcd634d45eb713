import ProofRelay.Proofs.Json.Grammar

/-!
# The documents that are read

The reader takes no other texts for a value than the grammar does: what a part of the reader takes
off a text denotes what it gives.  Together with the reading of every document, the documents of a
value are exactly the texts that read as it.

## Main definitions

* `Json.Takes` : a part of the reader that takes what denotes its result.

## Main results

* `Json.takes_value` : the reader of a value takes what denotes it.
* `Json.readChars_eq_ok_iff` : the texts that read as a value are its documents.
-/

namespace ProofRelay.Json

open ProofRelay.Text ProofRelay.Decimal

/-- The space that is skipped. -/
theorem exists_gap (s : List Char) : ∃ gap, IsGap gap ∧ s = gap ++ skipSpace s :=
  ⟨s.takeWhile isSpace, List.all_eq_true.mp List.all_takeWhile,
    List.takeWhile_append_dropWhile.symm⟩

/-! ### Texts -/

theorem exists_of_consPoint {n : Nat} {ns : List Nat} {rest : List Char} {r : Reading (List Nat)}
    (h : consPoint n r = .ok (ns, rest)) : ∃ ms, ns = n :: ms ∧ r = .ok (ms, rest) := by
  cases r with
  | error e => cases h
  | ok p =>
    cases h
    exact ⟨p.1, rfl, rfl⟩

/-- What is taken up to a closing mark spells the numbers that are given. -/
theorem exists_spellsText {opening s : List Char} {ns : List Nat} {rest : List Char}
    (h : textPoints opening s = .ok (ns, rest)) : ∃ t, s = t ++ '"' :: rest ∧ SpellsText t ns := by
  revert h
  fun_induction textPoints opening s generalizing ns rest with
  | case2 s =>
    rintro ⟨⟩
    exact ⟨[], rfl, .nil⟩
  | case4 a b c d e s n digits ih =>
    intro h
    obtain ⟨ms, rfl, read⟩ := exists_of_consPoint h
    obtain ⟨t, taken, spelled⟩ := ih read
    exact ⟨'\\' :: 'u' :: a :: b :: c :: d :: t, by rw [taken]; rfl, .numbered digits spelled⟩
  | case7 c s _ _ e escape ih =>
    intro h
    obtain ⟨ms, rfl, read⟩ := exists_of_consPoint h
    obtain ⟨t, rfl, spelled⟩ := ih read
    exact ⟨'\\' :: c :: t, rfl, .letter escape spelled⟩
  | case10 c s mark slash _ slash' printed ih =>
    intro h
    have noSlash : c ≠ '\\' := by
      intro same
      cases s with
      | nil => exact slash same rfl
      | cons d s => exact slash' d s same rfl
    obtain ⟨ms, rfl, read⟩ := exists_of_consPoint h
    obtain ⟨t, rfl, spelled⟩ := ih read
    exact ⟨c :: t, rfl, .plain mark noSlash (Nat.le_of_not_lt printed) spelled⟩
  | case1 | case3 | case5 | case6 | case8 | case9 => nofun

/-! ### Numbers -/

theorem exists_of_digits (s : List Char) :
    ∃ t, s = t ++ (digits s).2 ∧ t.map asciiDigit? = (digits s).1.map some := by
  induction s with
  | nil => exact ⟨[], rfl, rfl⟩
  | cons c s ih =>
    rw [digits]
    cases digit : asciiDigit? c with
    | none => exact ⟨[], rfl, rfl⟩
    | some d =>
      obtain ⟨t, taken, spelled⟩ := ih
      refine ⟨c :: t, congrArg (c :: ·) taken, ?_⟩
      rw [List.map_cons, digit, spelled]
      rfl

/-- Digits that are not none. -/
theorem exists_spellsDigits {s u : List Char} {ds : List Nat} (h : digits s = (ds, u))
    (full : ds ≠ []) : ∃ t, s = t ++ u ∧ SpellsDigits t ds := by
  obtain ⟨t, taken, spelled⟩ := exists_of_digits s
  rw [h] at taken spelled
  refine ⟨t, taken, ?_, spelled⟩
  rintro rfl
  exact full (by simpa using spelled.symm)

theorem exists_spellsWhole {s u : List Char} {ds : List Nat} (h : wholePart s = some (ds, u)) :
    ∃ t, s = t ++ u ∧ SpellsWhole t ds := by
  rw [wholePart.eq_def] at h
  split at h
  · cases h
    exact ⟨['0'], rfl, .zero⟩
  · next other =>
    split at h
    · cases h
    · next full =>
      have read : digits s = (ds, u) := Option.some.inj h
      have some : ds ≠ [] := by
        rintro rfl
        exact full _ read
      obtain ⟨t, rfl, spelled⟩ := exists_spellsDigits read some
      refine ⟨t, rfl, .digits ?_ spelled⟩
      obtain ⟨c, t, d, rfl, -⟩ := spelled.exists_cons
      intro zero
      cases zero
      exact other _ rfl

theorem exists_spellsFraction (s : List Char) :
    ∃ t, s = t ++ (fraction s).2 ∧ SpellsFraction t (fraction s).1 := by
  rw [fraction.eq_def]
  split
  · split
    · exact ⟨[], rfl, .absent⟩
    · next t full =>
      have some : (digits t).1 ≠ [] := by simpa using full
      obtain ⟨u, taken, spelled⟩ := exists_spellsDigits rfl some
      exact ⟨'.' :: u, congrArg ('.' :: ·) taken, .digits spelled⟩
  · exact ⟨[], rfl, .absent⟩

theorem signRun_cases {s u : List Char} {negative : Bool} (h : signRun s = (negative, u)) :
    (s = '-' :: u ∧ negative = true) ∨ (s = '+' :: u ∧ negative = false) ∨
      (s = u ∧ negative = false) := by
  rw [signRun.eq_def] at h
  split at h
  · cases h
    exact .inl ⟨rfl, rfl⟩
  · cases h
    exact .inr (.inl ⟨rfl, rfl⟩)
  · cases h
    exact .inr (.inr ⟨rfl, rfl⟩)

theorem exists_spellsPower (s : List Char) :
    ∃ t, s = t ++ (power s).2 ∧ SpellsPower t (power s).1 := by
  rw [power.eq_def]
  split
  · next c t =>
    split
    · next letter =>
      replace letter : c = 'e' ∨ c = 'E' := by simpa using letter
      split
      next negative u sign =>
        split
        · exact ⟨[], rfl, .absent⟩
        · next ds rest full read =>
          have some : ds ≠ [] := by
            rintro rfl
            exact full rfl
          obtain ⟨w, rfl, spelled⟩ := exists_spellsDigits read some
          rcases signRun_cases sign with ⟨rfl, rfl⟩ | ⟨rfl, rfl⟩ | ⟨rfl, rfl⟩
          · exact ⟨c :: '-' :: w, rfl, .minus letter spelled⟩
          · exact ⟨c :: '+' :: w, rfl, .plus letter spelled⟩
          · exact ⟨c :: w, rfl, .plain letter spelled⟩
    · exact ⟨[], rfl, .absent⟩
  · exact ⟨[], rfl, .absent⟩

theorem exists_spellsNumber {s rest : List Char} {v : Json} (h : number s = .ok (v, rest)) :
    ∃ t, s = t ++ rest ∧ SpellsNumber t v := by
  unfold number at h
  split at h
  next negative u split =>
    obtain ⟨sign, rfl, signed⟩ : ∃ sign, s = sign ++ u ∧ SpellsSign sign negative := by
      split at split
      · cases split
        exact ⟨['-'], rfl, .minus⟩
      · cases split
        exact ⟨[], rfl, .absent⟩
    split at h
    · cases h
    · next ds t whole =>
      obtain ⟨w, rfl, spelled⟩ := exists_spellsWhole whole
      obtain ⟨f, taken, fractional⟩ := exists_spellsFraction t
      obtain ⟨p, taken', raised⟩ := exists_spellsPower (fraction t).2
      generalize fraction t = found at h taken taken' fractional raised
      obtain ⟨fs, rest'⟩ := found
      dsimp only at h taken taken' fractional raised
      generalize power rest' = found at h taken' raised
      obtain ⟨power, rest''⟩ := found
      dsimp only at h taken' raised
      subst taken' taken
      split at h
      · next bare =>
        split at h
        · cases h
        · next short =>
          cases h
          obtain ⟨rfl, rfl⟩ : fs = [] ∧ power = none := by simpa using bare
          obtain rfl : f = [] := by
            cases fractional with
            | absent => rfl
            | digits digits => exact absurd rfl digits.ne_nil
          cases raised
          exact ⟨sign ++ w, by simp, .whole signed spelled (Nat.le_of_not_lt short)⟩
      · next other =>
        cases h
        refine ⟨sign ++ (w ++ (f ++ p)), by simp, .float signed spelled fractional raised ?_⟩
        by_cases bare : fs = []
        · exact .inr fun unraised => other (by rw [bare, unraised]; rfl)
        · exact .inl bare

/-! ### Values -/

theorem exists_word {s rest : List Char} {v : Json} (h : word? s = some (v, rest)) :
    ∃ w ∈ words, v = w.2 ∧ s = w.1.toList ++ rest := by
  obtain ⟨w, mem, found⟩ := List.exists_of_findSome?_eq_some h
  refine ⟨w, mem, ?_⟩
  split at found
  · next begins =>
    cases found
    obtain ⟨t, rfl⟩ := List.isPrefixOf_iff_prefix.mp begins
    exact ⟨rfl, by rw [← String.length_toList, List.drop_left]⟩
  · cases found

/-- Whether a part of the reader, if it gives a result, takes off a text what denotes the result and
a closing text behind it. -/
def Takes {α : Type} (part : α → Part) (close s : List Char) (r : Reading α) : Prop :=
  ∀ x rest, r = .ok (x, rest) → ∃ t, s = t ++ (close ++ rest) ∧ Denotes (part x) t

theorem Takes.error {α : Type} {part : α → Part} {close s : List Char} {e : Refusal} :
    Takes part close s (.error e) :=
  nofun

theorem exists_of_map {α β : Type} {r : Reading α} {g : α → β} {y : β} {rest : List Char}
    (h : r.map (fun p => (g p.1, p.2)) = .ok (y, rest)) : ∃ x, y = g x ∧ r = .ok (x, rest) := by
  cases r with
  | error e => cases h
  | ok p =>
    cases h
    exact ⟨p.1, rfl, rfl⟩

theorem takes_textBody (s : List Char) : Takes .value [] ('"' :: s) (textBody ('"' :: s) s) := by
  intro v rest h
  rw [textBody] at h
  obtain ⟨ns, rfl, read⟩ := exists_of_map (g := fun ns => ofPoints (joinHalves ns)) h
  obtain ⟨t, rfl, spelled⟩ := exists_spellsText read
  exact ⟨'"' :: (t ++ ['"']), by simp, .text spelled⟩

mutual

/-- The reader of a value takes what denotes it. -/
theorem takes_value : ∀ (fuel : Nat) (s : List Char), Takes .value [] s (value fuel s)
  | 0, _ => .error
  | fuel + 1, s => by
    rw [value.eq_def]
    dsimp only
    split
    · exact takes_textBody _
    · next t =>
      obtain ⟨gap, space, skipped⟩ := exists_gap t
      split
      · next u bracket =>
        rintro _ _ ⟨⟩
        rw [bracket] at skipped
        exact ⟨'[' :: (gap ++ [']']), by rw [skipped]; simp, .emptyList space⟩
      · intro v rest h
        obtain ⟨vs, rfl, read⟩ := exists_of_map h
        obtain ⟨u, taken, denotes⟩ := takes_items fuel _ vs rest read
        rw [taken] at skipped
        exact ⟨'[' :: (gap ++ (u ++ [']'])), by rw [skipped]; simp, .list space denotes⟩
    · next t =>
      obtain ⟨gap, space, skipped⟩ := exists_gap t
      split
      · next u brace =>
        rintro _ _ ⟨⟩
        rw [brace] at skipped
        exact ⟨'\x7b' :: (gap ++ ['\x7d']), by rw [skipped]; simp, .emptyObject space⟩
      · intro v rest h
        obtain ⟨fs, rfl, read⟩ := exists_of_map (g := fun fs => obj (ofWrites fs)) h
        obtain ⟨u, taken, denotes⟩ := takes_members fuel _ fs rest read
        rw [taken] at skipped
        exact ⟨'\x7b' :: (gap ++ (u ++ ['\x7d'])), by rw [skipped]; simp, .object space denotes⟩
    · split
      · next found =>
        rintro v rest ⟨⟩
        obtain ⟨w, mem, rfl, taken⟩ := exists_word found
        exact ⟨w.1.toList, taken, .word mem⟩
      · intro v rest h
        obtain ⟨t, taken, spelled⟩ := exists_spellsNumber h
        exact ⟨t, taken, .number spelled⟩

/-- The reader of items takes what denotes them, up to the end of the list. -/
theorem takes_items : ∀ (fuel : Nat) (s : List Char), Takes .items [']'] s (items fuel s)
  | 0, _ => .error
  | fuel + 1, s => by
    have first := takes_value fuel s
    rw [items]
    split
    · exact .error
    · next v t read =>
      obtain ⟨u, rfl, item⟩ := first v t read
      obtain ⟨after, space, skipped⟩ := exists_gap t
      split
      · next w bracket =>
        rintro _ _ ⟨⟩
        rw [bracket] at skipped
        exact ⟨u ++ after, by rw [skipped]; simp, .lastItem item space⟩
      · next w comma =>
        intro ws rest h
        obtain ⟨vs, rfl, read'⟩ := exists_of_map h
        obtain ⟨before, space', skipped'⟩ := exists_gap w
        obtain ⟨x, taken, more⟩ := takes_items fuel _ vs rest read'
        rw [taken] at skipped'
        rw [comma, skipped'] at skipped
        exact ⟨u ++ (after ++ ',' :: (before ++ x)), by rw [skipped]; simp,
          .item item space space' more⟩
      · exact .error

/-- The reader of a field takes what denotes it. -/
theorem takes_field : ∀ (fuel : Nat) (s : List Char), Takes .field [] s (field fuel s)
  | 0, _ => .error
  | fuel + 1, s => by
    rw [field.eq_def]
    dsimp only
    split
    · next t =>
      split
      · exact .error
      · next name u named =>
        rw [nameBody] at named
        obtain ⟨ns, rfl, read⟩ := exists_of_map (g := fun ns => textOfPoints (joinHalves ns)) named
        obtain ⟨n, rfl, spelled⟩ := exists_spellsText read
        obtain ⟨after, space, skipped⟩ := exists_gap u
        split
        · next w colon =>
          intro f rest h
          obtain ⟨v, rfl, read'⟩ := exists_of_map h
          obtain ⟨before, space', skipped'⟩ := exists_gap w
          obtain ⟨x, taken, denotes⟩ := takes_value fuel _ v rest read'
          rw [taken] at skipped'
          rw [colon, skipped'] at skipped
          exact ⟨'"' :: (n ++ '"' :: (after ++ ':' :: (before ++ x))), by rw [skipped]; simp,
            .field spelled space space' denotes⟩
        · exact .error
    · exact .error

/-- The reader of fields takes what denotes them, up to the end of the object. -/
theorem takes_members : ∀ (fuel : Nat) (s : List Char), Takes .members ['\x7d'] s (members fuel s)
  | 0, _ => .error
  | fuel + 1, s => by
    have first := takes_field fuel s
    rw [members]
    split
    · exact .error
    · next f t read =>
      obtain ⟨u, rfl, member⟩ := first f t read
      obtain ⟨after, space, skipped⟩ := exists_gap t
      split
      · next w brace =>
        rintro _ _ ⟨⟩
        rw [brace] at skipped
        exact ⟨u ++ after, by rw [skipped]; simp, .lastMember member space⟩
      · next w comma =>
        intro gs rest h
        obtain ⟨fs, rfl, read'⟩ := exists_of_map h
        obtain ⟨before, space', skipped'⟩ := exists_gap w
        obtain ⟨x, taken, more⟩ := takes_members fuel _ fs rest read'
        rw [taken] at skipped'
        rw [comma, skipped'] at skipped
        exact ⟨u ++ (after ++ ',' :: (before ++ x)), by rw [skipped]; simp,
          .member member space space' more⟩
      · exact .error

end

/-- The texts that read as a value are its documents, with space around them. -/
theorem readChars_eq_ok_iff {s : List Char} {v : Json} : readChars s = .ok v ↔
    ∃ before t after, s = before ++ (t ++ after) ∧ IsGap before ∧ IsGap after ∧
      Denotes (.value v) t := by
  constructor
  · intro h
    rw [readChars.eq_def] at h
    split at h
    · cases h
    · split at h
      · cases h
      · next w rest read =>
        split at h
        · next ends =>
          cases h
          obtain ⟨before, space, skipped⟩ := exists_gap s
          obtain ⟨after, space', skipped'⟩ := exists_gap rest
          obtain ⟨t, taken, denotes⟩ := takes_value _ _ v rest read
          rw [ends, List.append_nil] at skipped'
          rw [taken, skipped'] at skipped
          exact ⟨before, t, after, skipped, space, space', denotes⟩
        · cases h
  · rintro ⟨before, t, after, rfl, space, space', denotes⟩
    exact readChars_of_denotes denotes space space'

end ProofRelay.Json
