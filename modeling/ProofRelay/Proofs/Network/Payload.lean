import ProofRelay.Network.Payload
import ProofRelay.Poll.Verdict
import ProofRelay.Proofs.Text.Utf8

/-!
# What a payload is made of

The payload of an output is told here without the order in which it is computed: which entries of
the output count, and which bytes an entry gives.  The bytes of all entries that count, one after
the other, are the bytes of the payload; a payload that verifies a block has some.

An entry that counts and gives no bytes has data that are a text which writes none, or data that are
neither absent nor a text.  The first entry of these decides how the bytes of a list are refused.

## Main definitions

* `Payload.IsCounted`, `Payload.Gives` : the entries that count, and the bytes of an entry.
* `Payload.Collects` : the bytes of a list of entries.
* `Payload.IsIllegible`, `Payload.IsUntyped` : the entries that count and give no bytes.
* `Payload.Tells` : the bytes of an output.

## Main results

* `Payload.chunks_eq_ok_iff` : the bytes of a list are the ones that it collects.
* `Payload.collects_append_iff` : the bytes of entries behind others.
* `Payload.chunks_of_isIllegible`, `Payload.chunks_of_isUntyped` : how a list is refused.
* `Payload.tells_of_ofOutput` : the bytes of a payload that is not empty.
* `Verdict.exists_brace` : a verified payload begins with a brace.
-/

namespace ProofRelay

open ProofRelay.Text

namespace Payload

/-- The entries that count. -/
def IsCounted (entry : Json) : Prop :=
  entry.field? "kind" = some (.str "Verification")

/-- The bytes that an entry gives: the ones that its data write in base 64, and none where the data
are missing or count as absent. -/
inductive Gives (entry : Json) : List UInt8 → Prop
  /-- There are no data. -/
  | missing (h : entry.field? "data" = none) : Gives entry []
  /-- The data count as absent. -/
  | absent {v} (h : entry.field? "data" = some v) (falsy : v.isFalsy = true) : Gives entry []
  /-- The data are a text. -/
  | written {v text bytes} (h : entry.field? "data" = some v) (isText : v.text? = some text)
      (read : Base64.decode text.toList = .ok bytes) : Gives entry bytes

/-- The bytes of the entries that count, in order. -/
inductive Collects : List Json → List UInt8 → Prop
  /-- There are no entries. -/
  | none : Collects [] []
  /-- An entry does not count. -/
  | other {entry entries bytes} (h : ¬ IsCounted entry) (more : Collects entries bytes) :
      Collects (entry :: entries) bytes
  /-- An entry counts. -/
  | counted {entry entries part bytes} (h : IsCounted entry) (gives : Gives entry part)
      (more : Collects entries bytes) : Collects (entry :: entries) (part ++ bytes)

/-- Whether an entry counts and its data are a text that writes no bytes. -/
def IsIllegible (entry : Json) : Prop :=
  IsCounted entry ∧ ∃ v text e, entry.field? "data" = some v ∧ v.text? = some text ∧
    Base64.decode text.toList = .error e

/-- Whether an entry counts and its data are a value that is neither absent nor a text. -/
def IsUntyped (entry v : Json) : Prop :=
  IsCounted entry ∧ entry.field? "data" = some v ∧ v.isFalsy = false ∧ v.text? = none

/-- The bytes of an output, which is a list of entries. -/
def Tells (output : String) (bytes : List UInt8) : Prop :=
  ∃ entries, Json.readChars (trim output.toList) = .ok (.arr entries) ∧ Collects entries bytes

variable {output payload : String} {entry v : Json} {bytes : List UInt8}

theorem not_isCounted_of_data? (h : data? entry = none) : ¬ IsCounted entry := by
  intro counted
  rw [data?, counted] at h
  dsimp only at h
  rw [if_pos (by rfl)] at h
  split at h <;> cases h

/-- The data of an entry that counts. -/
theorem isCounted_of_data? (h : data? entry = some v) :
    IsCounted entry ∧ (entry.field? "data" = none ∧ v = .str "" ∨ ∃ u,
      entry.field? "data" = some u ∧ v = if u.isFalsy then .str "" else u) := by
  rw [data?] at h
  split at h
  · next k kind =>
    split at h
    · next counts =>
      subst counts
      refine ⟨kind, ?_⟩
      split at h
      · next u data => exact .inr ⟨u, data, (Option.some.inj h).symm⟩
      · next data => exact .inl ⟨data, (Option.some.inj h).symm⟩
    · cases h
  · cases h

/-- The bytes of data are what the text writes. -/
theorem exists_text_of_chunk (h : chunk output v = .ok bytes) :
    ∃ text, v.text? = some text ∧ Base64.decode text.toList = .ok bytes := by
  rw [chunk] at h
  split at h
  · next text isText =>
    split at h
    · next bytes' read =>
      cases h
      exact ⟨text, isText, read⟩
    · cases h
  · cases h

theorem eq_nil_of_chunk (h : chunk output (.str "") = .ok bytes) : bytes = [] := by
  cases h
  rfl

theorem gives_of_chunk (h : data? entry = some v) (read : chunk output v = .ok bytes) :
    Gives entry bytes := by
  obtain ⟨-, ⟨data, rfl⟩ | ⟨u, data, rfl⟩⟩ := isCounted_of_data? h
  · rw [eq_nil_of_chunk read]
    exact .missing data
  · split at read
    · next falsy =>
      rw [eq_nil_of_chunk read]
      exact .absent data falsy
    · obtain ⟨text, isText, read⟩ := exists_text_of_chunk read
      exact .written data isText read

theorem data?_of_not_isCounted (h : ¬ IsCounted entry) : data? entry = none := by
  cases data : data? entry with
  | none => rfl
  | some v => exact absurd (isCounted_of_data? data).1 h

theorem data?_of_isCounted (h : IsCounted entry) :
    data? entry = some (match entry.field? "data" with
      | some v => if v.isFalsy then .str "" else v
      | none => .str "") := by
  rw [data?, h]
  dsimp only
  rw [if_pos (by rfl)]
  cases entry.field? "data" <;> rfl

/-- A text that counts as absent is empty. -/
theorem text_of_isFalsy {text : String} (h : v.isFalsy = true) (isText : v.text? = some text) :
    text = "" := by
  cases v with
  | str s =>
    cases isText
    exact String.isEmpty_iff.mp h
  | torn ps =>
    cases isText
    obtain rfl : ps = [] := List.isEmpty_iff.mp h
    rfl
  | null | bool | int | float | arr | obj => cases isText

/-- The data of an entry are read as the bytes that it gives. -/
theorem chunk_of_gives (output : String) (h : IsCounted entry) (gives : Gives entry bytes) :
    ∃ v, data? entry = some v ∧ chunk output v = .ok bytes := by
  refine ⟨_, data?_of_isCounted h, ?_⟩
  cases gives with
  | missing data =>
    rw [data]
    rfl
  | absent data falsy =>
    rw [data]
    dsimp only
    rw [if_pos falsy]
    rfl
  | @written v text _ data isText read =>
    rw [data]
    dsimp only
    split
    · next falsy =>
      rw [text_of_isFalsy falsy isText] at read
      cases read
      rfl
    · rw [chunk, isText]
      dsimp only
      rw [read]

theorem chunks_cons_of_not_isCounted (h : ¬ IsCounted entry) (entries : List Json) :
    chunks output (entry :: entries) = chunks output entries := by
  rw [chunks, data?_of_not_isCounted h]

theorem chunks_cons_of_gives (h : IsCounted entry) (gives : Gives entry bytes)
    (entries : List Json) :
    chunks output (entry :: entries) = (chunks output entries).map (bytes ++ ·) := by
  obtain ⟨v, data, read⟩ := chunk_of_gives output h gives
  rw [chunks, data]
  dsimp only
  rw [read]

theorem chunks_cons_of_isIllegible (h : IsIllegible entry) (entries : List Json) :
    ∃ reason, chunks output (entry :: entries) =
      unexpected output ("verification data is not base64: " ++ reason) := by
  obtain ⟨counted, v, text, e, data, isText, read⟩ := h
  have present : ¬ v.isFalsy = true := by
    intro falsy
    rw [text_of_isFalsy falsy isText] at read
    cases read
  refine ⟨e.message, ?_⟩
  rw [chunks, data?_of_isCounted counted, data]
  dsimp only
  rw [if_neg present, chunk, isText]
  dsimp only
  rw [read]
  rfl

theorem chunks_cons_of_isUntyped (h : IsUntyped entry v) (entries : List Json) :
    chunks output (entry :: entries) =
      .error (.defect .mismatch
        ("argument should be a bytes-like object or ASCII string, not '" ++ v.kindName ++
          "'")) := by
  obtain ⟨counted, data, present, noText⟩ := h
  rw [chunks, data?_of_isCounted counted, data]
  dsimp only
  rw [present, if_neg Bool.false_ne_true, chunk, noText]

/-- What an entry does: it does not count, gives bytes, or refuses in one of two ways. -/
theorem entry_cases (entry : Json) :
    ¬ IsCounted entry ∨ (IsCounted entry ∧ ∃ bytes, Gives entry bytes) ∨ IsIllegible entry ∨
      ∃ v, IsUntyped entry v := by
  by_cases counted : IsCounted entry
  · refine .inr ?_
    cases data : entry.field? "data" with
    | none => exact .inl ⟨counted, [], .missing data⟩
    | some v =>
      cases falsy : v.isFalsy with
      | true => exact .inl ⟨counted, [], .absent data falsy⟩
      | false =>
        cases isText : v.text? with
        | none => exact .inr (.inr ⟨v, counted, data, falsy, isText⟩)
        | some text =>
          cases read : Base64.decode text.toList with
          | ok bytes => exact .inl ⟨counted, bytes, .written data isText read⟩
          | error e => exact .inr (.inl ⟨counted, v, text, e, data, isText, read⟩)
  · exact .inl counted

/-- The bytes that are collected are computed. -/
theorem chunks_of_collects {entries : List Json} (h : Collects entries bytes) :
    chunks output entries = .ok bytes := by
  induction h with
  | none => rfl
  | other h _ ih => rw [chunks_cons_of_not_isCounted h, ih]
  | counted h gives _ ih =>
    rw [chunks_cons_of_gives h gives, ih]
    rfl

/-- Entries in front that give bytes do not change how the rest is refused. -/
theorem chunks_append_of_collects {front entries : List Json} {e : Fault}
    (h : Collects front bytes) (refused : chunks output entries = .error e) :
    chunks output (front ++ entries) = .error e := by
  induction h with
  | none => exact refused
  | other h _ ih => rw [List.cons_append, chunks_cons_of_not_isCounted h, ih]
  | counted h gives _ ih =>
    rw [List.cons_append, chunks_cons_of_gives h gives, ih]
    rfl

/-- Behind entries that give bytes, data that are neither absent nor a text are a defect. -/
theorem chunks_of_isUntyped {front : List Json} (h : Collects front bytes)
    (untyped : IsUntyped entry v) (back : List Json) :
    chunks output (front ++ entry :: back) =
      .error (.defect .mismatch
        ("argument should be a bytes-like object or ASCII string, not '" ++ v.kindName ++ "'")) :=
  chunks_append_of_collects h (chunks_cons_of_isUntyped untyped back)

/-- A text that writes no bytes is refused wherever it stands, unless data that are neither absent
nor a text stand in front of it. -/
theorem chunks_of_isIllegible {front : List Json} (typed : ∀ e ∈ front, ∀ v, ¬ IsUntyped e v)
    (illegible : IsIllegible entry) (back : List Json) :
    ∃ reason, chunks output (front ++ entry :: back) =
      unexpected output ("verification data is not base64: " ++ reason) := by
  induction front with
  | nil => exact chunks_cons_of_isIllegible illegible back
  | cons e front ih =>
    obtain ⟨here, others⟩ := List.forall_mem_cons.mp typed
    obtain ⟨reason, refused⟩ := ih others
    rcases entry_cases e with other | ⟨counted, part, gives⟩ | first | ⟨v, untyped⟩
    · exact ⟨reason, (chunks_cons_of_not_isCounted other _).trans refused⟩
    · refine ⟨reason, (chunks_cons_of_gives counted gives (front ++ entry :: back)).trans ?_⟩
      rw [refused]
      rfl
    · exact chunks_cons_of_isIllegible first _
    · exact absurd untyped (here v)

/-- A list of entries gives bytes, has a text that writes none, or has data that are neither absent
nor a text behind entries that give bytes. -/
theorem entries_cases (entries : List Json) :
    (∃ bytes, Collects entries bytes) ∨
      (∃ front entry back, entries = front ++ entry :: back ∧ (∃ bytes, Collects front bytes) ∧
        (IsIllegible entry ∨ ∃ v, IsUntyped entry v)) := by
  induction entries with
  | nil => exact .inl ⟨[], .none⟩
  | cons e entries ih =>
    rcases entry_cases e with other | ⟨counted, part, gives⟩ | refused
    · rcases ih with ⟨bytes, collects⟩ | ⟨front, entry, back, rfl, ⟨bytes, collects⟩, refused⟩
      · exact .inl ⟨bytes, .other other collects⟩
      · exact .inr ⟨e :: front, entry, back, rfl, ⟨bytes, .other other collects⟩, refused⟩
    · rcases ih with ⟨bytes, collects⟩ | ⟨front, entry, back, rfl, ⟨bytes, collects⟩, refused⟩
      · exact .inl ⟨part ++ bytes, .counted counted gives collects⟩
      · exact .inr ⟨e :: front, entry, back, rfl, ⟨part ++ bytes, .counted counted gives collects⟩,
          refused⟩
    · exact .inr ⟨[], e, entries, rfl, ⟨[], .none⟩, refused⟩

/-- The bytes that are computed are the ones of the entries that count. -/
theorem collects_of_chunks {entries : List Json} (h : chunks output entries = .ok bytes) :
    Collects entries bytes := by
  induction entries generalizing bytes with
  | nil =>
    cases h
    exact .none
  | cons entry entries ih =>
    rw [chunks] at h
    split at h
    · next none => exact .other (not_isCounted_of_data? none) (ih h)
    · next v data =>
      split at h
      · cases h
      · next part read =>
        cases rest : chunks output entries with
        | error e =>
          rw [rest] at h
          cases h
        | ok bytes' =>
          rw [rest] at h
          cases h
          exact .counted (isCounted_of_data? data).1 (gives_of_chunk data read) (ih rest)

/-- The bytes of a list are the ones that it collects. -/
theorem chunks_eq_ok_iff {entries : List Json} :
    chunks output entries = .ok bytes ↔ Collects entries bytes :=
  ⟨collects_of_chunks, chunks_of_collects⟩

/-- A list collects one sequence of bytes only. -/
theorem Collects.unique {entries : List Json} {bytes' : List UInt8} (h : Collects entries bytes)
    (h' : Collects entries bytes') : bytes = bytes' :=
  Except.ok.inj ((@chunks_of_collects "" _ _ h).symm.trans (chunks_of_collects h'))

theorem Collects.append {front back : List Json} {bytes' : List UInt8} (h : Collects front bytes)
    (h' : Collects back bytes') : Collects (front ++ back) (bytes ++ bytes') := by
  induction h with
  | none => exact h'
  | other h _ ih => exact .other h ih
  | counted h gives _ ih =>
    rw [List.append_assoc]
    exact .counted h gives ih

/-- The bytes of entries behind others stand behind the bytes of these. -/
theorem collects_append_iff {front back : List Json} : Collects (front ++ back) bytes ↔
    ∃ bytes₁ bytes₂, Collects front bytes₁ ∧ Collects back bytes₂ ∧ bytes = bytes₁ ++ bytes₂ := by
  constructor
  · intro h
    induction front generalizing bytes with
    | nil => exact ⟨[], bytes, .none, h, rfl⟩
    | cons entry front ih =>
      cases h with
      | other h more =>
        obtain ⟨bytes₁, bytes₂, here, behind, rfl⟩ := ih more
        exact ⟨bytes₁, bytes₂, .other h here, behind, rfl⟩
      | counted h gives more =>
        obtain ⟨bytes₁, bytes₂, here, behind, rfl⟩ := ih more
        exact ⟨_, bytes₂, .counted h gives here, behind, (List.append_assoc _ _ _).symm⟩
  · rintro ⟨bytes₁, bytes₂, here, behind, rfl⟩
    exact here.append behind

/-- A payload is what its bytes decode to. -/
theorem decode_of_ofBytes (h : ofBytes output bytes = .ok payload) :
    Utf8.decode bytes = .ok payload.toList := by
  rw [ofBytes, Utf8.toString?] at h
  cases decoded : Utf8.decode bytes with
  | error e =>
    rw [decoded] at h
    cases h
  | ok s =>
    rw [decoded] at h
    cases h
    rw [String.toList_ofList]

/-- An output that is read as a value gives what its entries give. -/
theorem ofOutput_of_readChars (h : Json.readChars (trim output.toList) = .ok v) :
    ofOutput output = ofEntries output v := by
  have full : ¬ (trim output.toList).isEmpty = true := by
    intro empty
    rw [List.isEmpty_iff.mp empty] at h
    cases h
  simp only [ofOutput]
  rw [if_neg full, h]

/-- The bytes of a payload that is not empty are the ones that the output tells. -/
theorem tells_of_ofOutput (h : ofOutput output = .ok payload) (full : payload ≠ "") :
    Tells output (Utf8.ofString payload) ∧
      Utf8.decode (Utf8.ofString payload) = .ok payload.toList := by
  simp only [ofOutput] at h
  split at h
  · exact absurd (Except.ok.inj h).symm full
  · split at h
    · next v document =>
      rw [ofEntries.eq_def] at h
      split at h
      · exact absurd (Except.ok.inj h).symm full
      · next entries =>
        cases collected : chunks output entries with
        | error e =>
          rw [collected] at h
          cases h
        | ok bytes =>
          rw [collected] at h
          have decoded := decode_of_ofBytes h
          have same : Utf8.ofString payload = bytes := Utf8.encode_of_decode decoded
          rw [same]
          exact ⟨⟨entries, document, chunks_eq_ok_iff.mp collected⟩, decoded⟩
      · cases h
    · split at h <;> cases h

end Payload

/-- A verified payload begins with a brace, behind blank characters. -/
theorem Verdict.exists_brace {payload : String} (h : Verdict.ofPayload payload = .verified) :
    ∃ rest, trimStart payload.toList = '\x7b' :: rest := by
  rw [ofPayload, ofChars] at h
  split at h
  · cases h
  · next c rest trimmed =>
    split at h
    · next brace => exact ⟨rest, by rw [trimmed, brace]⟩
    · cases h

end ProofRelay
