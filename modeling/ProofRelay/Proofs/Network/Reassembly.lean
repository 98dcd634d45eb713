import ProofRelay.Proofs.Json.RoundTrip
import ProofRelay.Proofs.Network.Payload
import ProofRelay.Proofs.Text.Base64

/-!
# Putting a payload together

A payload is printed in parts: its bytes are cut, anywhere and also inside a character, and each
part is the data of an entry of its own.  Between these entries stand others, which do not count or
have no data.  Any document of the list of all of them, between blank ends, gives the payload back:
the parts are put together as bytes, and only then read as text.

Bytes that are the text of nothing are refused with the output, and so is an output with an entry
whose data write no bytes.

## Main definitions

* `Payload.Holds`, `Payload.IsSilent` : the entry of a part, and the entries without data.
* `Payload.Interleaves` : the entries of the parts, in order and among silent entries.
* `Payload.Refuses` : an output that is refused.
* `Payload.Reassembles` : what an output with a list of entries gives.

## Main results

* `Payload.collects_behind_iff` : entries behind those of a payload add to its text.
* `Payload.ofOutput_of_denotes` : an output that denotes a list gives the text of its bytes.
* `Payload.ofOutput_reassembles` : every document of a list is put together.
-/

namespace ProofRelay.Payload

open ProofRelay.Text

/-- Whether an entry is the one of a part of a payload. -/
def Holds (entry : Json) (part : List UInt8) : Prop :=
  IsCounted entry ∧ entry.field? "data" = some (.str (String.ofList (Base64.encode part)))

/-- Whether an entry does not count, or has no data but such that count as absent. -/
def IsSilent (entry : Json) : Prop :=
  IsCounted entry → ∀ v, entry.field? "data" = some v → v.isFalsy = true

/-- The entries of the parts of a payload, in order and among entries that are silent. -/
inductive Interleaves : List (List UInt8) → List Json → Prop
  /-- There are no more entries. -/
  | nil : Interleaves [] []
  /-- The entry of a part. -/
  | part {part parts entry entries} (holds : Holds entry part) (more : Interleaves parts entries) :
      Interleaves (part :: parts) (entry :: entries)
  /-- A silent entry. -/
  | silent {parts entry entries} (silent : IsSilent entry) (more : Interleaves parts entries) :
      Interleaves parts (entry :: entries)

/-- Whether an output is refused for a reason behind a text, and the refusal carries all of it. -/
def Refuses (output lead : String) : Prop :=
  ∃ reason, ofOutput output = .error (.stage (.withOutput .output (lead ++ reason) output))

/-- What an output with a list of entries gives. -/
structure Reassembles (output : String) (entries : List Json) : Prop where
  /-- The text whose bytes the parts are. -/
  decoded : ∀ parts text, Interleaves parts entries → parts.flatten = Utf8.ofString text →
    ofOutput output = .ok text
  /-- A refusal, when the parts are the bytes of no text. -/
  malformed : ∀ parts, Interleaves parts entries → (∀ text, parts.flatten ≠ Utf8.ofString text) →
    Refuses output "verification payload is not UTF-8: "
  /-- A refusal, when the data of an entry are a text that writes no bytes, wherever it stands
  behind entries whose data are absent or a text. -/
  illegible : ∀ front entry back, entries = front ++ entry :: back → IsIllegible entry →
    (∀ e ∈ front, ∀ v, ¬ IsUntyped e v) → Refuses output "verification data is not base64: "

variable {output : String} {entry : Json} {entries : List Json}

/-! ### The bytes of the parts -/

theorem gives_of_holds {part : List UInt8} (h : Holds entry part) : Gives entry part :=
  .written h.2 rfl (by rw [String.toList_ofList, Base64.decode_encode])

theorem gives_of_isSilent (h : IsSilent entry) (counted : IsCounted entry) : Gives entry [] := by
  cases data : entry.field? "data" with
  | none => exact .missing data
  | some v => exact .absent data (h counted v data)

/-- The entries of parts give all bytes of them. -/
theorem collects_of_interleaves {parts : List (List UInt8)} (h : Interleaves parts entries) :
    Collects entries parts.flatten := by
  induction h with
  | nil => exact .none
  | part holds _ ih => exact .counted holds.1 (gives_of_holds holds) ih
  | @silent parts entry entries silent _ ih =>
    by_cases counted : IsCounted entry
    · exact .counted counted (gives_of_isSilent silent counted) ih
    · exact .other counted ih

/-! ### The text of the bytes -/

theorem ofBytes_ofString (text : String) : ofBytes output (Utf8.ofString text) = .ok text := by
  rw [ofBytes, Utf8.toString?, Utf8.ofString, Utf8.decode_encode]
  exact congrArg _ (String.ofList_toList)

/-- Bytes of no text are refused. -/
theorem ofBytes_of_forall_ne {bytes : List UInt8} (h : ∀ text, bytes ≠ Utf8.ofString text) :
    ∃ reason, ofBytes output bytes =
      unexpected output ("verification payload is not UTF-8: " ++ reason) := by
  cases decoded : Utf8.decode bytes with
  | ok s =>
    refine absurd (Utf8.decode_eq_ok_iff.mp decoded) ?_
    have other := h (String.ofList s)
    rwa [Utf8.ofString, String.toList_ofList] at other
  | error e =>
    refine ⟨e.message, ?_⟩
    rw [ofBytes, Utf8.toString?, decoded]
    rfl

/-! ### The list of an output -/

/-- An output that is read as a list gives the text whose bytes the list collects. -/
theorem ofOutput_eq_ok_iff {payload : String}
    (read : Json.readChars (trim output.toList) = .ok (.arr entries)) :
    ofOutput output = .ok payload ↔ Collects entries (Utf8.ofString payload) := by
  rw [ofOutput_of_readChars read, ofEntries]
  constructor
  · intro given
    cases collected : chunks output entries with
    | error e =>
      rw [collected] at given
      cases given
    | ok bytes =>
      rw [collected] at given
      have same : Utf8.ofString payload = bytes := Utf8.encode_of_decode (decode_of_ofBytes given)
      exact same ▸ chunks_eq_ok_iff.mp collected
  · intro collects
    rw [chunks_eq_ok_iff.mpr collects]
    exact ofBytes_ofString payload

/-- Entries behind those of a payload add the text of their bytes to it. -/
theorem collects_behind_iff {payload payload' : String} {added : List Json}
    (before : Collects entries (Utf8.ofString payload)) :
    Collects (entries ++ added) (Utf8.ofString payload') ↔
      ∃ rest, payload' = payload ++ rest ∧ Collects added (Utf8.ofString rest) := by
  rw [collects_append_iff]
  constructor
  · rintro ⟨bytes₁, bytes₂, here, behind, whole⟩
    rw [here.unique before] at whole
    -- The payload before ends with a character, so that the bytes behind it begin with one.
    obtain ⟨rest, grown, written⟩ := Utf8.exists_of_encode_eq_append whole
    refine ⟨String.ofList rest, ?_, ?_⟩
    · rw [← String.toList_inj, String.toList_append, String.toList_ofList]
      exact grown
    · rwa [Utf8.ofString, String.toList_ofList, written]
  · rintro ⟨rest, rfl, behind⟩
    refine ⟨_, _, before, behind, ?_⟩
    rw [Utf8.ofString, String.toList_append, Utf8.encode, List.flatMap_append]
    rfl

/-- An output that denotes a list, between blank ends, gives the text of its bytes. -/
theorem ofOutput_of_denotes {before document after : List Char}
    (h : Json.Denotes (.value (.arr entries)) document)
    (blank : ∀ c ∈ before, isBlank c = true) (blank' : ∀ c ∈ after, isBlank c = true)
    (printed : output.toList = before ++ (document ++ after)) :
    ofOutput output = (chunks output entries).bind (ofBytes output) := by
  have read := Json.readChars_of_denotes h Json.isGap_nil Json.isGap_nil
  rw [List.nil_append, List.append_nil] at read
  obtain ⟨t, brackets⟩ := h.exists_brackets
  have trimmed : trim output.toList = document := by
    rw [printed]
    exact trim_append blank blank' (c := '[') (d := ']') (by decide) (by decide)
      ⟨_, brackets⟩ ⟨'[' :: t, brackets⟩
  rw [ofOutput_of_readChars (trimmed ▸ read)]
  rfl

/-- Every document of a list of entries, between blank ends, is put together. -/
theorem ofOutput_reassembles {before document after : List Char}
    (h : Json.Denotes (.value (.arr entries)) document)
    (blank : ∀ c ∈ before, isBlank c = true) (blank' : ∀ c ∈ after, isBlank c = true) :
    Reassembles (String.ofList (before ++ (document ++ after))) entries := by
  have given := ofOutput_of_denotes h blank blank' String.toList_ofList
  refine ⟨fun parts text parted whole => ?_, fun parts parted torn => ?_,
    fun front entry back stands illegible typed => ?_⟩
  · rw [given, chunks_eq_ok_iff.mpr (collects_of_interleaves parted), whole]
    exact ofBytes_ofString text
  · obtain ⟨reason, refused⟩ := ofBytes_of_forall_ne torn
    refine ⟨reason, ?_⟩
    rw [given, chunks_eq_ok_iff.mpr (collects_of_interleaves parted)]
    exact refused
  · obtain ⟨reason, refused⟩ := chunks_of_isIllegible typed illegible back
    refine ⟨reason, ?_⟩
    rw [given, stands, refused]
    rfl

/-! ### A payload cut inside a character -/

/-- The entries of two parts, cut inside a character, among silent entries. -/
def cutEntries : List Json :=
  [.obj [("kind", .str "Verification"), ("data", .str "eyLi")],
    .obj [("kind", .str "Log"), ("data", .str "?")],
    .obj [("kind", .str "Verification"), ("data", .null)],
    .obj [("data", .str "nJMifQ=="), ("kind", .str "Verification")]]

/-- A document of these entries. -/
def cutDocument : List Char :=
  "[\x7b\"kind\":\"Verification\",\"data\":\"eyLi\"\x7d,".toList ++
    ("\x7b\"kind\":\"Log\",\"data\":\"?\"\x7d,".toList ++
      ("\x7b\"kind\":\"Verification\",\"data\":null\x7d,".toList ++
        "\x7b\"data\":\"nJMifQ==\",\"kind\":\"Verification\"\x7d]".toList))

theorem denotes_cutDocument : Json.Denotes (.value (.arr cutEntries)) cutDocument := by
  have kind : Json.IsPlainName "kind" := Json.isPlainName_of_ascii (by simp)
  have data : Json.IsPlainName "data" := Json.isPlainName_of_ascii (by simp)
  have plain : (Json.arr cutEntries).IsPlain := by
    simp [cutEntries, Json.IsPlain, Json.ArePlain, Json.ArePlainFields, kind, data]
  have laid : Json.written .dense 0 (.arr cutEntries) = cutDocument := by decide +kernel
  rw [← laid]
  exact Json.denotes_written Json.Layout.isSpace_dense _ 0 plain

theorem interleaves_cutEntries :
    Interleaves [[0x7b, 0x22, 0xe2], [0x9c, 0x93, 0x22, 0x7d]] cutEntries := by
  refine .part ⟨rfl, rfl⟩ (.silent ?otherKind (.silent ?noData (.part ⟨rfl, rfl⟩ .nil)))
  case otherKind =>
    intro counted
    simp [IsCounted, Json.field?, Json.fields?, Json.get?] at counted
  case noData =>
    intro _ v data
    cases data
    rfl

/-- The document between a tab and a line end gives the character back whose bytes were cut. -/
theorem ofOutput_cutDocument :
    ofOutput (String.ofList (['\t'] ++ (cutDocument ++ ['\n']))) =
      .ok "\x7b\"✓\"\x7d" := by
  have whole : Reassembles (String.ofList (['\t'] ++ (cutDocument ++ ['\n']))) cutEntries :=
    ofOutput_reassembles denotes_cutDocument (List.forall_mem_singleton.mpr rfl)
      (List.forall_mem_singleton.mpr rfl)
  exact whole.decoded _ _ interleaves_cutEntries (by decide)

end ProofRelay.Payload
