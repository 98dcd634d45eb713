import ProofRelay.Proofs.Network.Reassembly

/-!
# What a printed text can do

The network's tool may print any text.  It gives a payload or is refused with the whole of it,
unless one of two things comes first: data of an entry that counts are neither absent nor a text, or
a whole number has more digits than a number may have.  Neither is taken for a wrong output: data of
another kind are a defect, and the number is a bare fault that carries no output.

## Main definitions

* `Payload.Settles` : an output that gives a payload or is refused with all of it.
* `Payload.Clashes`, `Payload.Overflows` : the outputs of the two other kinds.
* `Payload.Discipline` : what a printed text does.

## Main results

* `Payload.settles_iff` : the outputs that settle.
* `Payload.ofOutput_discipline` : every text does one of these.
* `Payload.number_for_data_escapes` : a number for data is not refused.
-/

namespace ProofRelay.Payload

open ProofRelay.Text

/-- Whether an output gives a payload, or is refused as an output with all of its text. -/
def Settles (output : String) : Prop :=
  (∃ text, ofOutput output = .ok text) ∨
    ∃ message, ofOutput output = .error (.stage (.withOutput .output message output))

/-- Whether an output is a list in which, behind entries that give bytes, an entry that counts has
data that are neither absent nor a text. -/
def Clashes (output : String) (v : Json) : Prop :=
  ∃ front entry back,
    Json.readChars (trim output.toList) = .ok (.arr (front ++ entry :: back)) ∧
      (∃ bytes, Collects front bytes) ∧ IsUntyped entry v

/-- Whether reading an output comes to a whole number with this many digits, which is over the
limit. -/
def Overflows (output : String) (digits : Nat) : Prop :=
  ∃ left, Json.readChars (trim output.toList) = .error ⟨.tooManyDigits digits, left⟩

/-- What a printed text does. -/
structure Discipline (output : String) : Prop where
  /-- A payload or a refusal, exactly unless one of the other two comes first. -/
  settled : Settles output ↔ (∀ v, ¬ Clashes output v) ∧ ∀ digits, ¬ Overflows output digits
  /-- A defect that names the kind of the data. -/
  clash : ∀ v, Clashes output v → ofOutput output = .error (.defect .mismatch
    ("argument should be a bytes-like object or ASCII string, not '" ++ v.kindName ++ "'"))
  /-- A bare fault that names the count of digits. -/
  overflow : ∀ digits, Overflows output digits →
    ofOutput output = .error (.value (Decimal.tooManyDigits digits))
  /-- This comes to every whole number with more digits than the limit. -/
  long : ∀ ds, Json.SpellsWhole (trim output.toList) ds → Decimal.digitLimit < ds.length →
    Overflows output ds.length

variable {output : String}

theorem settles_of_ofEntries_arr {entries : List Json}
    (h : ofOutput output = ofEntries output (.arr entries))
    (typed : ∀ front entry back v, entries = front ++ entry :: back →
      (∃ bytes, Collects front bytes) → ¬ IsUntyped entry v) : Settles output := by
  rw [Settles, h, ofEntries]
  rcases entries_cases entries with ⟨bytes, collects⟩ |
    ⟨front, entry, back, rfl, ⟨bytes, collects⟩, illegible | ⟨v, untyped⟩⟩
  · rw [chunks_eq_ok_iff.mpr collects, Except.bind, ofBytes]
    cases Utf8.toString? bytes with
    | ok text => exact .inl ⟨text, rfl⟩
    | error e => exact .inr ⟨_, rfl⟩
  · obtain ⟨reason, refused⟩ : ∃ reason, chunks output (entry :: back) =
        unexpected output ("verification data is not base64: " ++ reason) :=
      chunks_cons_of_isIllegible illegible back
    rw [chunks_append_of_collects collects refused]
    exact .inr ⟨_, rfl⟩
  · exact absurd untyped (typed front entry back v rfl ⟨bytes, collects⟩)

theorem settles_of_error {e : Json.Refusal}
    (h : Json.readChars (trim output.toList) = .error e) (form : e.isOfForm = true) :
    Settles output := by
  simp only [Settles, ofOutput]
  split
  · exact .inl ⟨"", rfl⟩
  · rw [h]
    dsimp only
    rw [if_pos form]
    exact .inr ⟨_, rfl⟩

/-- An output in which neither data nor a number are of the two other kinds settles. -/
theorem settles_of_forall_not (typed : ∀ v, ¬ Clashes output v)
    (short : ∀ digits, ¬ Overflows output digits) : Settles output := by
  cases read : Json.readChars (trim output.toList) with
  | error e =>
    refine settles_of_error read ?_
    obtain ⟨problem, left⟩ := e
    cases problem with
    | tooManyDigits digits => exact absurd ⟨left, read⟩ (short digits)
    | _ => rfl
  | ok v =>
    have given := ofOutput_of_readChars read
    cases v with
    | null => exact .inl ⟨"", given⟩
    | arr entries =>
      refine settles_of_ofEntries_arr given fun front entry back v stands collects untyped => ?_
      exact typed v ⟨front, entry, back, stands ▸ read, collects, untyped⟩
    | bool | int | float | str | torn | obj => exact .inr ⟨_, given⟩

theorem ofOutput_of_clashes {v : Json} (h : Clashes output v) :
    ofOutput output = .error (.defect .mismatch
      ("argument should be a bytes-like object or ASCII string, not '" ++ v.kindName ++ "'")) := by
  obtain ⟨front, entry, back, read, ⟨bytes, collects⟩, untyped⟩ := h
  rw [ofOutput_of_readChars read, ofEntries, chunks_of_isUntyped collects untyped]
  rfl

theorem ofOutput_of_overflows {digits : Nat} (h : Overflows output digits) :
    ofOutput output = .error (.value (Decimal.tooManyDigits digits)) := by
  obtain ⟨left, read⟩ := h
  have full : ¬ (trim output.toList).isEmpty = true := by
    intro empty
    rw [List.isEmpty_iff.mp empty] at read
    cases read
  simp only [ofOutput]
  rw [if_neg full, read]
  rfl

theorem not_settles_of_clashes {v : Json} (h : Clashes output v) : ¬ Settles output := by
  rintro (⟨text, given⟩ | ⟨message, given⟩)
  · rw [ofOutput_of_clashes h] at given
    cases given
  · rw [ofOutput_of_clashes h] at given
    cases given

theorem not_settles_of_overflows {digits : Nat} (h : Overflows output digits) :
    ¬ Settles output := by
  rintro (⟨text, given⟩ | ⟨message, given⟩)
  · rw [ofOutput_of_overflows h] at given
    cases given
  · rw [ofOutput_of_overflows h] at given
    cases given

/-- An output settles exactly if neither data nor a number are of the two other kinds. -/
theorem settles_iff : Settles output ↔
    (∀ v, ¬ Clashes output v) ∧ ∀ digits, ¬ Overflows output digits := by
  constructor
  · intro settles
    exact ⟨fun _ clash => not_settles_of_clashes clash settles,
      fun _ overflow => not_settles_of_overflows overflow settles⟩
  · rintro ⟨typed, short⟩
    exact settles_of_forall_not typed short

/-- A whole number with more digits than the limit overflows, between blank ends. -/
theorem overflows_of_spellsWhole {ds : List Nat}
    (h : Json.SpellsWhole (trim output.toList) ds) (long : Decimal.digitLimit < ds.length) :
    Overflows output ds.length :=
  ⟨_, Json.readChars_of_tooManyDigits h long⟩

/-- A printed text gives a payload or is refused with all of it, unless data of an entry that counts
are neither absent nor a text, or a whole number has too many digits. -/
theorem ofOutput_discipline (output : String) : Discipline output :=
  ⟨settles_iff, fun _ => ofOutput_of_clashes, fun _ => ofOutput_of_overflows,
    fun _ => overflows_of_spellsWhole⟩

/-! ### A number for data -/

/-- A list with an entry that counts and whose data are a number. -/
def numberedDocument : String := "[\x7b\"kind\":\"Verification\",\"data\":5\x7d]"

open Json in
theorem denotes_numberedDocument :
    Denotes (.value (.arr [.obj [("kind", .str "Verification"), ("data", .int 5)]]))
      numberedDocument.toList := by
  have five : Denotes (.value (.int 5)) ['5'] := by
    have digits : SpellsDigits ['5'] [5] := ⟨by decide, rfl⟩
    exact .number (.whole .absent (.digits (by decide) digits) (by decide))
  have kind : Denotes _ (writtenField .dense 0 ("kind", .str "Verification")) :=
    denotes_writtenField Layout.isSpace_dense (isPlainName_of_ascii (by simp))
      (denotes_quoteText "Verification")
  have data : Denotes _ (writtenField .dense 0 ("data", .int 5)) :=
    denotes_writtenField Layout.isSpace_dense (isPlainName_of_ascii (by simp)) five
  have entry := Denotes.object isGap_nil
    (.member kind isGap_nil isGap_nil (.lastMember data isGap_nil))
  have list := Denotes.list isGap_nil (.lastItem entry isGap_nil)
  refine (congrArg (Denotes _) ?spelled).mp list
  case spelled => decide +kernel

theorem clashes_numberedDocument : Clashes numberedDocument (.int 5) := by
  have trimmed : trim numberedDocument.toList = numberedDocument.toList := by decide +kernel
  have read := Json.readChars_of_denotes denotes_numberedDocument Json.isGap_nil Json.isGap_nil
  rw [List.nil_append, List.append_nil, ← trimmed] at read
  exact ⟨[], _, [], read, ⟨[], .none⟩, rfl, rfl, rfl, rfl⟩

/-- A number for the data of an entry that counts is a defect, so not every text is refused as an
output. -/
theorem number_for_data_escapes :
    ofOutput "[\x7b\"kind\":\"Verification\",\"data\":5\x7d]" = .error (.defect .mismatch
      "argument should be a bytes-like object or ASCII string, not 'int'") ∧
      ¬ ∀ output, Settles output := by
  have clash := clashes_numberedDocument
  exact ⟨ofOutput_of_clashes clash, fun all => not_settles_of_clashes clash (all _)⟩

end ProofRelay.Payload
