import ProofRelay.Proofs.Network.Reassembly
import ProofRelay.Proofs.Poll.Outcome
import ProofRelay.Proofs.Text.Labels
import ProofRelay.Proofs.World.Conduct

/-!
# Verdicts of growing payloads

A payload is judged by its first character that is not blank, so that text behind it matters only
as long as it is blank altogether.  Of several texts in a row the first one with such a character
gives the verdict.

A network that only adds puts entries behind the entries of an output, and text behind a tree,
which keeps the leaf that it has.  A payload that was read ends with a whole character, so that the
payload of more entries is the one before with the text of the new entries behind it; new entries
that are the bytes of no text make the poll fail.  A transaction that was seen verified or
malformed is therefore found so by every later poll that finds anything.

## Main definitions

* `Vigil.found` : what a poll finds, in any state.
* `Vigil.OnlyAdds` : a network that only adds entries.
* `Vigil.Keeps` : a poll that finds the verdict of an earlier one.

## Main results

* `Verdict.ofPayload_join` : the verdict on texts in a row.
* `Vigil.keeps_of_found` : a final verdict is found again.
* `Verdict.stable` : verdicts are stable under more output.
-/

namespace ProofRelay

open ProofRelay.Text

/-! ### Texts in a row -/

namespace Verdict

theorem ofPayload_append (p q : String) :
    ofPayload (p ++ q) = if ofPayload p = .pending then ofPayload q else ofPayload p := by
  rw [ofPayload, String.toList_append, ofChars_append]
  rfl

/-- A payload is pending as long as it is blank. -/
theorem ofPayload_eq_pending_iff {payload : String} :
    ofPayload payload = .pending ↔ isBlankText payload = true := by
  rw [isBlankText, List.all_eq_true, ← trimStart_eq_nil_iff, ofPayload, ofChars]
  constructor
  · intro pending
    split at pending
    · next nothing => exact nothing
    · split at pending <;> cases pending
  · intro nothing
    rw [nothing]

/-- Of texts in a row the first one that is not blank gives the verdict. -/
theorem ofPayload_join (texts : List String) :
    ofPayload (String.join texts) =
      ((texts.find? fun text => !isBlankText text).map ofPayload).getD .pending := by
  induction texts with
  | nil => rfl
  | cons text texts ih =>
    rw [String.join_cons, ofPayload_append, List.find?_cons]
    cases blank : isBlankText text with
    | true => rw [if_pos (ofPayload_eq_pending_iff.mpr blank), ih, Bool.not_true]
    | false =>
      have final : ¬ ofPayload text = .pending := by
        rw [ofPayload_eq_pending_iff, blank]
        exact Bool.false_ne_true
      rw [if_neg final, Bool.not_false]
      rfl

end Verdict

namespace Vigil

section Polls

variable {α : Type} [LE α] [DecidableLE α] [Add α] [Sub α] (v : Vigil α)

/-! ### What a poll finds -/

/-- What a poll finds that is made in a state. -/
def found (t : Timeline α) : Except Fault PollResult :=
  ((v.poller.pollOnce v.settings v.transaction).runIn t).1

/-- A poll finds what the network answers to the poll of its number. -/
theorem found_eq_outcome (t : Timeline α) : v.found t = (v.answers t.trees).outcome := by
  rw [found, runIn_pollOnce]

/-- A network that only adds entries to the output under a transaction's leaf, from a poll on. -/
structure OnlyAdds {α : Type} (v : Vigil α) (m : Nat) (entries : Nat → List Json) : Prop where
  /-- A tree that is told has a leaf. -/
  leaf : ∀ n ≥ m, ∀ said, (v.answers n).tree.said = .ok said →
    (Label.value? leafLabel said.out).isSome = true
  /-- An output that is told is the list of the entries. -/
  output : ∀ n ≥ m, ∀ said, (v.answers n).output.said = .ok said →
    Json.readChars (trim said.out.toList) = .ok (.arr (entries n))
  /-- The entries of the next poll stand behind those of a poll. -/
  grows : ∀ n ≥ m, entries n <+: entries (n + 1)

/-- What a poll finds after an earlier one has found a result, where the network has added entries
since. -/
structure Keeps (seen : PollResult) (added : List Json) (t : Timeline α) : Prop where
  /-- A result has the same verdict. -/
  verdict : ∀ later, v.found t = .ok later → later.verdict = seen.verdict
  /-- Its payload is the one seen with the text of the added entries behind it. -/
  payload : ∀ later, v.found t = .ok later →
    ∃ rest, later.payload = seen.payload ++ rest ∧ Payload.Collects added (Utf8.ofString rest)
  /-- There is a result exactly if the network answers both calls and the added entries give the
  bytes of a text. -/
  given_iff : (∃ later, v.found t = .ok later) ↔
    (∃ said, (v.answers t.trees).tree.said = .ok said) ∧
      (∃ said, (v.answers t.trees).output.said = .ok said) ∧
        ∃ rest, Payload.Collects added (Utf8.ofString rest)

/-! ### Networks that only add -/

section Networks

variable {α : Type} {v : Vigil α} {m : Nat} {entries : Nat → List Json}

/-- The entries of a later poll stand behind those of a poll. -/
theorem OnlyAdds.entries_isPrefix (adds : v.OnlyAdds m entries) {n : Nat} (later : m ≤ n) :
    entries m <+: entries n := by
  induction later with
  | refl => exact List.prefix_rfl
  | @step n later ih => exact ih.trans (adds.grows n later)

/-- A tree with a leaf keeps it where only text behind the tree is added. -/
theorem onlyAdds_of_grown (tree : Nat → String)
    (leaf : (Label.value? leafLabel (tree m)).isSome = true)
    (told : ∀ n ≥ m, ∀ said, (v.answers n).tree.said = .ok said → said.out = tree n)
    (grown : ∀ n ≥ m, ∃ more, tree (n + 1) = tree n ++ more)
    (output : ∀ n ≥ m, ∀ said, (v.answers n).output.said = .ok said →
      Json.readChars (trim said.out.toList) = .ok (.arr (entries n)))
    (grows : ∀ n ≥ m, entries n <+: entries (n + 1)) : v.OnlyAdds m entries := by
  refine ⟨fun n later said asked => ?leaf, output, grows⟩
  case leaf =>
    rw [told n later said asked]
    clear asked
    induction later with
    | refl => exact leaf
    | @step n later ih =>
      obtain ⟨more, added⟩ := grown n later
      rw [added]
      exact Label.isSome_value?_append more ih

end Networks

/-! ### Verdicts that were seen -/

section Networks

variable {v : Vigil α} {m n : Nat} {entries : Nat → List Json}

omit [LE α] [DecidableLE α] [Add α] [Sub α] in
/-- A poll that finds a result is told a payload, since its tree has a leaf. -/
theorem OnlyAdds.told_of_outcome (adds : v.OnlyAdds m entries) (later : m ≤ n)
    {result : PollResult} (found : (v.answers n).outcome = .ok result) :
    ∃ leaf payload, (v.answers n).Told leaf payload ∧ result = .ofPayload leaf payload := by
  rcases Answer.leafless_or_told found with ⟨said, tree, leafless, -⟩ | told
  · have some := adds.leaf n later said tree
    rw [leafless] at some
    cases some
  · exact told

omit [LE α] [DecidableLE α] [Add α] [Sub α] in
/-- The payload that a poll is told is the text of the entries. -/
theorem OnlyAdds.told_iff (adds : v.OnlyAdds m entries) (later : m ≤ n) {payload : String} :
    (∃ leaf, (v.answers n).Told leaf payload) ↔
      (∃ said, (v.answers n).tree.said = .ok said) ∧
        (∃ said, (v.answers n).output.said = .ok said) ∧
          Payload.Collects (entries n) (Utf8.ofString payload) := by
  constructor
  · rintro ⟨leaf, ⟨said, tree, -⟩, said', output, given⟩
    exact ⟨⟨said, tree⟩, ⟨said', output⟩,
      (Payload.ofOutput_eq_ok_iff (adds.output n later said' output)).mp given⟩
  · rintro ⟨⟨said, tree⟩, ⟨said', output⟩, collects⟩
    obtain ⟨leaf, there⟩ := Option.isSome_iff_exists.mp (adds.leaf n later said tree)
    exact ⟨leaf, ⟨said, tree, there⟩, said', output,
      (Payload.ofOutput_eq_ok_iff (adds.output n later said' output)).mpr collects⟩

/-- A final result that was seen is found again by every later poll that finds anything. -/
theorem keeps_of_found (adds : v.OnlyAdds m entries) {t t' : Timeline α} {seen : PollResult}
    (here : t.trees = m) (found : v.found t = .ok seen) (final : seen.verdict ≠ .pending)
    (later : m ≤ t'.trees) :
    v.Keeps seen ((entries t'.trees).drop (entries m).length) t' := by
  rw [found_eq_outcome, here] at found
  obtain ⟨leaf, payload, told, rfl⟩ := Answer.told_of_outcome found final
  have before := ((adds.told_iff (Nat.le_refl m)).mp ⟨leaf, told⟩).2.2
  have whole : entries t'.trees = entries m ++ (entries t'.trees).drop (entries m).length :=
    (List.prefix_iff_eq_append.mp (adds.entries_isPrefix later)).symm
  generalize (entries t'.trees).drop (entries m).length = added at whole
  -- A result is a payload, which is the one seen with the text of the added entries behind it.
  have results : ∀ result, v.found t' = .ok result → ∃ leaf' rest,
      Payload.Collects added (Utf8.ofString rest) ∧
        (v.answers t'.trees).Told leaf' (payload ++ rest) ∧
          result = .ofPayload leaf' (payload ++ rest) := by
    intro result found'
    rw [found_eq_outcome] at found'
    obtain ⟨leaf', payload', told', rfl⟩ := adds.told_of_outcome later found'
    have collects := ((adds.told_iff later).mp ⟨leaf', told'⟩).2.2
    rw [whole] at collects
    obtain ⟨rest, rfl, behind⟩ := (Payload.collects_behind_iff before).mp collects
    exact ⟨leaf', rest, behind, told', rfl⟩
  refine ⟨fun result found' => ?verdict, fun result found' => ?payload, ?given⟩
  case verdict =>
    obtain ⟨leaf', rest, -, -, rfl⟩ := results result found'
    exact (Verdict.ofPayload_append payload rest).trans (if_neg final)
  case payload =>
    obtain ⟨leaf', rest, behind, -, rfl⟩ := results result found'
    exact ⟨rest, rfl, behind⟩
  case given =>
    constructor
    · rintro ⟨result, found'⟩
      obtain ⟨leaf', rest, behind, told', -⟩ := results result found'
      obtain ⟨tree, output, -⟩ := (adds.told_iff later).mp ⟨leaf', told'⟩
      exact ⟨tree, output, rest, behind⟩
    · rintro ⟨tree, output, rest, behind⟩
      have collects : Payload.Collects (entries t'.trees) (Utf8.ofString (payload ++ rest)) := by
        rw [whole]
        exact (Payload.collects_behind_iff before).mpr ⟨rest, rfl, behind⟩
      obtain ⟨leaf', told'⟩ := (adds.told_iff later).mpr ⟨tree, output, collects⟩
      exact ⟨_, (v.found_eq_outcome t').trans told'.outcome⟩

end Networks

end Polls

end Vigil

/-! ### Stable verdicts -/

/-- A verdict stays when a payload grows, and a pending payload leaves it to what follows; of texts
in a row the first one that is not blank gives the verdict; and a final verdict that was seen is
found again whatever the network adds. -/
theorem Verdict.stable (α : Type) [LE α] [DecidableLE α] [Add α] [Sub α] :
    (∀ p q, (Verdict.ofPayload p ≠ .pending →
        Verdict.ofPayload (p ++ q) = Verdict.ofPayload p) ∧
      (Verdict.ofPayload p = .pending → Verdict.ofPayload (p ++ q) = Verdict.ofPayload q)) ∧
    (∀ texts, Verdict.ofPayload (String.join texts) =
      ((texts.find? fun text => !isBlankText text).map Verdict.ofPayload).getD .pending) ∧
    ∀ (v : Vigil α) (m : Nat) (entries : Nat → List Json), v.OnlyAdds m entries →
      ∀ (t t' : Timeline α) (seen : PollResult), t.trees = m → v.found t = .ok seen →
        seen.verdict ≠ .pending → m ≤ t'.trees →
          v.Keeps seen ((entries t'.trees).drop (entries m).length) t' := by
  refine ⟨fun p q => ⟨fun final => ?_, fun pending => ?_⟩, Verdict.ofPayload_join, ?_⟩
  · rw [Verdict.ofPayload_append, if_neg final]
  · rw [Verdict.ofPayload_append, if_pos pending]
  · exact fun v m entries adds t t' seen here found final later =>
      Vigil.keeps_of_found adds here found final later

/-! ### A payload that grows behind its brace -/

/-- The entries of the first poll, and of the polls behind it. -/
def growingEntries (n : Nat) : List Json :=
  .obj [("kind", .str "Verification"), ("data", .str "CiB7")] ::
    if n = 0 then [] else
      [.obj [("kind", .str "Log")], .obj [("kind", .str "Verification"), ("data", .str "fQ==")]]

/-- The output with these entries. -/
def growingOutput (n : Nat) : String :=
  if n = 0 then "[\x7b\"kind\":\"Verification\",\"data\":\"CiB7\"\x7d]\n"
  else "[\x7b\"kind\":\"Verification\",\"data\":\"CiB7\"\x7d,\x7b\"kind\":\"Log\"\x7d," ++
    "\x7b\"kind\":\"Verification\",\"data\":\"fQ==\"\x7d]\n"

/-- The tree, which gets a second leaf. -/
def growingTree (n : Nat) : String :=
  if n = 0 then "Root: 0xabc\n  Leaf: 0xdead\n" else "Root: 0xabc\n  Leaf: 0xdead\n  Leaf: 0xbeef\n"

/-- Polls of the transaction. -/
def growingVigil : Vigil Int where
  settings := Settings.standard ⟨"/", ["run"]⟩
  transaction := "0xabc"
  policy := ⟨10, 1, 300, none⟩
  answers := fun n => ⟨⟨1, false, .ok ⟨growingTree n, ""⟩⟩, ⟨1, false, .ok ⟨growingOutput n, ""⟩⟩⟩
  start := 0
  stop := none
  seconds := id
  rounded := toString

theorem onlyAdds_growingVigil : growingVigil.OnlyAdds 0 growingEntries := by
  refine Vigil.onlyAdds_of_grown growingTree (by decide +kernel)
    (fun n _ said told => ?told) (fun n _ => ?grown) (fun n _ said told => ?output)
    (fun n _ => ?grows)
  case told =>
    obtain rfl := Except.ok.inj told
    rfl
  case grown =>
    cases n with
    | zero => exact ⟨"  Leaf: 0xbeef\n", by decide +kernel⟩
    | succ n => exact ⟨"", String.append_empty.symm⟩
  case output =>
    obtain rfl := Except.ok.inj told
    cases n with
    | zero => exact eq_ok_of_toOption (by decide +kernel)
    | succ n =>
      change Json.readChars (trim (growingOutput 1).toList) = .ok (.arr (growingEntries 1))
      exact eq_ok_of_toOption (by decide +kernel)
  case grows =>
    cases n with
    | zero => exact ⟨_, rfl⟩
    | succ n => exact List.prefix_rfl

/-- A payload that begins with a brace on its second line is verified by the first poll and by the
sixth one. -/
theorem Verdict.stable_sample :
    growingVigil.OnlyAdds 0 growingEntries ∧
      growingVigil.found ⟨0, none, 0, []⟩ = .ok (.ofPayload "0xdead" "\n \x7b") ∧
      (PollResult.ofPayload "0xdead" "\n \x7b").verdict ≠ .pending ∧
      growingVigil.found ⟨9, none, 5, []⟩ = .ok (.ofPayload "0xdead" "\n \x7b\x7d") ∧
      growingVigil.Keeps (.ofPayload "0xdead" "\n \x7b")
        ((growingEntries 5).drop (growingEntries 0).length) ⟨9, none, 5, []⟩ := by
  have seen : growingVigil.found ⟨0, none, 0, []⟩ = .ok (.ofPayload "0xdead" "\n \x7b") :=
    eq_ok_of_toOption (by decide +kernel)
  refine ⟨onlyAdds_growingVigil, seen, by decide, eq_ok_of_toOption (by decide +kernel), ?_⟩
  exact (Verdict.stable Int).2.2 growingVigil 0 growingEntries onlyAdds_growingVigil
    ⟨0, none, 0, []⟩ ⟨9, none, 5, []⟩ _ rfl seen (by decide) (Nat.zero_le _)

end ProofRelay
