import ProofRelay.Files.Tree

/-!
# Where paths lead

There are no links, so that the location a path leads to is settled by the names of the path and
the working directory alone: `FileTree.target`.  The files only decide whether the path can be
followed.  A single name behind a path leads one step further than the path.

## Main definitions

* `Path.IsName` : texts that are a single name of a path.
* `FileTree.target` : the location of a path.

## Main results

* `FileTree.target_of_locate` : a path that can be followed leads to its location.
* `isName_numbered` : names with a number in them.
* `Path.join_of_isName`, `FileTree.target_join` : a single name behind a path.
* `FileTree.exists_target_of_letter` : where a text leads that ends with a letter.
-/

namespace ProofRelay

open ProofRelay.Text

/-! ### Single names -/

namespace Text

/-- A text without the separator is its own only piece. -/
theorem pieces_of_not_mem {sep : Char} {s : List Char} (h : sep ∉ s) : pieces sep s = [s] := by
  induction s with
  | nil => rfl
  | cons c s ih =>
    rw [List.mem_cons, not_or] at h
    rw [pieces, if_neg (Ne.symm h.1), ih h.2]

/-- The last piece of a text ends as the text does, if its end holds no separator. -/
theorem exists_getLast?_pieces_append {sep : Char} {s : List Char} (h : sep ∉ s)
    (before : List Char) :
    ∃ p, (pieces sep (before ++ s)).getLast? = some (p ++ s) := by
  induction before with
  | nil => exact ⟨[], by rw [List.nil_append, pieces_of_not_mem h]; rfl⟩
  | cons c before ih =>
    obtain ⟨p, hp⟩ := ih
    rw [List.cons_append, pieces]
    split
    · refine ⟨p, ?_⟩
      rw [List.getLast?_cons, hp]
      rfl
    · split
      · next hn => exact absurd hn (pieces_ne_nil sep _)
      · next q qs hq =>
        rw [hq] at hp
        cases qs with
        | nil =>
          rw [List.getLast?_singleton, Option.some.injEq] at hp
          exact ⟨c :: p, by rw [hp]; rfl⟩
        | cons r rs => exact ⟨p, by rw [List.getLast?_cons_cons] at hp ⊢; exact hp⟩

end Text

namespace Path

/-- Texts that are a single name of a path. -/
structure IsName (s : String) : Prop where
  /-- It is one piece. -/
  whole : '/' ∉ s.toList
  /-- It is not dropped, and it does not lead upwards. -/
  proper : s ≠ "" ∧ s ≠ "." ∧ s ≠ ".."

variable {s : String}

theorem partsOf_of_isName (h : IsName s) : partsOf s = [s] := by
  have kept : (decide (s ≠ "") && decide (s ≠ ".")) = true := by simp [h.proper]
  rw [partsOf, cutAt, pieces_of_not_mem h.whole, List.map_singleton, String.ofList_toList,
    List.filter_cons_of_pos (by exact kept), List.filter_nil]

theorem anchorOf_of_not_mem {s : List Char} (h : '/' ∉ s) : anchorOf s = "" := by
  unfold anchorOf
  split <;> simp_all

theorem ofString_of_isName (h : IsName s) : ofString s = ⟨"", [s]⟩ := by
  rw [ofString, partsOf_of_isName h, anchorOf_of_not_mem h.whole]

/-- A single name behind a path is its last name. -/
theorem join_of_isName (h : IsName s) (p : Path) : p.join s = ⟨p.anchor, p.parts ++ [s]⟩ := by
  change p.append (ofString s) = _
  rw [ofString_of_isName h]
  rfl

theorem name_join (h : IsName s) (p : Path) : (p.join s).name = s := by
  rw [join_of_isName h, name, List.getLast?_append, List.getLast?_singleton]
  rfl

theorem extended_join (h : IsName s) (p : Path) (ending : String) :
    (p.join s).extended ending = ⟨p.anchor, p.parts ++ [s ++ ending]⟩ := by
  rw [extended, name_join h, join_of_isName h, List.dropLast_concat]

/-- A path as a text ends with its last name. -/
theorem exists_toString_join (h : IsName s) (p : Path) :
    ∃ before, (p.join s).toString.toList = before ++ s.toList := by
  have ends : ∀ l : List String,
      ∃ before, ("/".intercalate (l ++ [s])).toList = before ++ s.toList := by
    intro l
    cases l with
    | nil => exact ⟨[], by simp⟩
    | cons x xs =>
      refine ⟨("/".intercalate (x :: xs) ++ "/").toList, ?_⟩
      rw [String.intercalate_append_of_ne_nil (by simp) (by simp)]
      simp
  obtain ⟨before, hb⟩ := ends p.parts
  refine ⟨p.anchor.toList ++ before, ?_⟩
  rw [join_of_isName h, toString, if_neg (by simp), String.toList_append, hb, List.append_assoc]

/-- The last name of a text ends as the text does, if the end is neither a separator nor a dot. -/
theorem exists_last_name {text : String} {before ending : List Char}
    (ends : text.toList = before ++ ending) (whole : '/' ∉ ending)
    (proper : ¬ ending <:+ ['.']) :
    ∃ parts last, (ofString text).parts = parts ++ [last] ∧ ending <:+ last.toList := by
  obtain ⟨p, hp⟩ := exists_getLast?_pieces_append whole before
  rw [← ends] at hp
  obtain ⟨init, hi⟩ := List.getLast?_eq_some_iff.1 hp
  have suffix : ∀ t : String, String.ofList (p ++ ending) = t → ending <:+ t.toList := by
    rintro t rfl
    rw [String.toList_ofList]
    exact List.suffix_append ..
  have kept : String.ofList (p ++ ending) ≠ "" ∧ String.ofList (p ++ ending) ≠ "." :=
    ⟨fun h => proper ((suffix "" h).trans List.nil_suffix), fun h => proper (suffix "." h)⟩
  refine ⟨(init.map String.ofList).filter fun p => p ≠ "" && p ≠ ".",
    String.ofList (p ++ ending), ?_, suffix _ rfl⟩
  have last : (decide (String.ofList (p ++ ending) ≠ "") &&
      decide (String.ofList (p ++ ending) ≠ ".")) = true := by
    rw [Bool.and_eq_true, decide_eq_true_eq, decide_eq_true_eq]
    exact kept
  change partsOf text = _
  rw [partsOf, cutAt, hi, List.map_append, List.filter_append, List.map_singleton,
    List.filter_cons_of_pos (by exact last), List.filter_nil]

end Path

/-! ### Numbered names -/

theorem isDigit_of_mem_toString {n : Nat} {c : Char} (h : c ∈ (toString n).toList) :
    c.isDigit = true := by
  rw [Nat.toString_eq_repr, Nat.toList_repr] at h
  exact Nat.isDigit_of_mem_toDigits (b := 10) (by decide) (by decide) h

/-- Different numbers are written differently. -/
theorem toString_inj {m n : Nat} (h : (toString m).toList = (toString n).toList) : m = n := by
  rw [Nat.toString_eq_repr, Nat.toString_eq_repr, Nat.toList_repr, Nat.toList_repr] at h
  rw [← Nat.ofDigitChars_toDigits (b := 10) (n := m) (by decide) (by decide), h,
    Nat.ofDigitChars_toDigits (by decide) (by decide)]

/-- A text has at least as many bytes as characters. -/
theorem length_le_utf8ByteSize (s : String) : s.toList.length ≤ s.utf8ByteSize := by
  have chars : ∀ cs : List Char, cs.length ≤ (String.ofList cs).utf8ByteSize := by
    intro cs
    induction cs with
    | nil => exact Nat.zero_le _
    | cons c cs ih =>
      have first := c.utf8Size_pos
      rw [String.ofList_cons, String.utf8ByteSize_append, String.utf8ByteSize_singleton,
        List.length_cons]
      omega
  have whole := chars s.toList
  rwa [String.ofList_toList] at whole

/-- A number between two texts is a single name, if there is no separator in the texts. -/
theorem isName_numbered {lead ending : String} (n : Nat) (hl : '/' ∉ lead.toList)
    (he : '/' ∉ ending.toList) (long : 3 ≤ lead.toList.length) :
    Path.IsName (lead ++ toString n ++ ending) := by
  refine ⟨?_, ?_⟩
  · rw [String.toList_append, String.toList_append, List.mem_append, List.mem_append]
    rintro ((h | h) | h)
    · exact hl h
    · exact absurd (isDigit_of_mem_toString h) (by decide)
    · exact he h
  · have other : ∀ t : String, t.toList.length < 3 → lead ++ toString n ++ ending ≠ t := by
      rintro t ht rfl
      rw [String.toList_append, String.toList_append, List.length_append, List.length_append] at ht
      omega
    exact ⟨other "" (by decide), other "." (by decide), other ".." (by decide)⟩

/-! ### Locations -/

namespace FileTree

variable {t : FileTree}

/-- The location that a name leads to. -/
def step (l : Location) (s : String) : Location :=
  if s = ".." then l.dropLast else l ++ [s]

/-- The location of a path. -/
def target (t : FileTree) (p : Path) : Location :=
  p.parts.foldl step (if p.isAbsolute then [] else t.here)

theorem foldl_step_of_walk {l m : Location} {ps : List String} (h : t.walk l ps = .ok m) :
    m = ps.foldl step l := by
  induction ps generalizing l with
  | nil =>
    rw [walk, Except.ok.injEq] at h
    exact h.symm
  | cons p ps ih =>
    rw [walk] at h
    split at h
    · cases h
    · cases h
    · rw [List.foldl_cons, step]
      split at h
      · next hp => rw [if_pos hp]; exact ih h
      · next hp =>
        rw [if_neg hp]
        split at h
        · cases h
        · exact ih h

/-- A path that can be followed leads to its location. -/
theorem target_of_locate {p : Path} {l : Location} (h : t.locate p = .ok l) : l = t.target p := by
  rw [locate] at h
  split at h
  · exact foldl_step_of_walk h
  · cases h

theorem utf8ByteSize_le_of_walk {l m : Location} {ps : List String} (h : t.walk l ps = .ok m) :
    ∀ s ∈ ps, s ≠ ".." → s.utf8ByteSize ≤ nameLimit := by
  induction ps generalizing l with
  | nil => exact List.forall_mem_nil _
  | cons p ps ih =>
    rw [walk] at h
    split at h
    · cases h
    · cases h
    · split at h
      · next up => exact List.forall_mem_cons.2 ⟨fun other => absurd up other, ih h⟩
      · split at h
        · cases h
        · next small => exact List.forall_mem_cons.2 ⟨fun _ => Nat.le_of_not_lt small, ih h⟩

/-- The names on the way to a file are short enough. -/
theorem utf8ByteSize_le_of_isFile {p : Path} (h : t.isFile p = true) :
    ∀ s ∈ p.parts, s ≠ ".." → s.utf8ByteSize ≤ nameLimit := by
  rw [isFile, status] at h
  cases located : t.locate p with
  | error e => simp [located] at h
  | ok l =>
    rw [locate] at located
    split at located
    · exact utf8ByteSize_le_of_walk located
    · cases located

/-- Where a path leads to a file there is one. -/
theorem exists_of_isFile {p : Path} (h : t.isFile p = true) :
    ∃ bytes mode, t.find? (t.target p) = some (.file bytes mode) := by
  rw [isFile, status] at h
  cases located : t.locate p with
  | error f => simp [located] at h
  | ok l =>
    rw [← target_of_locate located]
    simp only [located] at h
    cases found : t.find? l with
    | none => simp [found] at h
    | some e =>
      cases e with
      | directory mode => simp [found, Entry.isDirectory] at h
      | file bytes mode => exact ⟨bytes, mode, rfl⟩

theorem target_congr {t' : FileTree} (h : t'.here = t.here) (p : Path) :
    t'.target p = t.target p := by
  rw [target, target, h]

/-- A path with one more name leads one step further. -/
theorem target_append_singleton (t : FileTree) (anchor : String) (ps : List String) (s : String) :
    t.target ⟨anchor, ps ++ [s]⟩ = step (t.target ⟨anchor, ps⟩) s := by
  rw [target, target, List.foldl_append]
  rfl

theorem target_snoc (t : FileTree) (anchor : String) (ps : List String) {s : String}
    (h : s ≠ "..") : t.target ⟨anchor, ps ++ [s]⟩ = t.target ⟨anchor, ps⟩ ++ [s] := by
  rw [target_append_singleton, step, if_neg h]

theorem target_join (t : FileTree) (p : Path) {s : String} (h : Path.IsName s) :
    t.target (p.join s) = t.target p ++ [s] := by
  rw [Path.join_of_isName h, target_snoc t p.anchor p.parts h.proper.2.2]

/-- A text that ends with a letter leads to a name that ends with it. -/
theorem exists_target_of_letter (t : FileTree) {text : String} {before : List Char} {c : Char}
    (ends : text.toList = before ++ [c]) (letter : c.isAlpha = true) :
    ∃ l last, t.target (.ofString text) = l ++ [last] ∧ [c] <:+ last.toList := by
  have whole : '/' ∉ [c] := by
    rw [List.mem_singleton]
    rintro rfl
    cases letter
  have proper : ¬ [c] <:+ ['.'] := by
    intro h
    cases h.eq_of_length rfl
    cases letter
  obtain ⟨parts, last, hp, hl⟩ := Path.exists_last_name ends whole proper
  have upward : last ≠ ".." := by
    rintro rfl
    rw [List.singleton_suffix_iff_getLast?_eq_some] at hl
    cases hl
    cases letter
  refine ⟨t.target ⟨(Path.ofString text).anchor, parts⟩, last, ?_, hl⟩
  rw [← target_snoc t _ _ upward, ← hp]

end FileTree

end ProofRelay
