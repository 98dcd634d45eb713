import ProofRelay.Text.Label

/-!
# Labels read line by line

The values of a label are found by one scan over the whole text, which knows only the characters
behind it and whether its line has been used.  For a label that lies on one line this is the same
as to cut the text into lines, and to take from each line that holds the label what follows its
first occurrence there.

The scan meets the occurrences of a label at their ends, while a line is searched from its front.
Both pick the same occurrence, since of two occurrences of one text the one that begins first also
ends first.  An occurrence at the end of a line is one that the scan passes over; nothing follows
it, so that it gives no value either way.

## Main definitions

* `Label.Follows` : what follows the first occurrence of a label on a line.
* `Label.rest?` : the same as long as it is not empty, which is what the scan takes from a line.
* `Label.ReadByLine` : how the values of a label are read.

## Main results

* `Label.after?_eq_some_iff` : a line is searched for the first occurrence.
* `Label.restsFrom_eq` : the scan takes from each line what its search gives.
* `Label.isSome_value?_append` : a text keeps a value when it grows.
* `Label.values_readByLine` : the values of a label on one line are read line by line.
-/

namespace ProofRelay.Text

/-! ### Trimmed text -/

theorem trimStart_suffix (s : List Char) : trimStart s <:+ s :=
  List.dropWhile_suffix isBlank

theorem trimEnd_isPrefix (s : List Char) : trimEnd s <+: s := by
  have ends := trimStart_suffix s.reverse
  rwa [← List.reverse_prefix, List.reverse_reverse] at ends

/-- Trimmed text is a part of the text. -/
theorem trim_isInfix (s : List Char) : trim s <:+: s :=
  (trimEnd_isPrefix _).isInfix.trans (trimStart_suffix s).isInfix

/-- Text that is trimmed at its start does not begin with a blank character. -/
theorem isBlank_of_head?_trimStart {s : List Char} {c : Char}
    (h : (trimStart s).head? = some c) : isBlank c = false := by
  have first := List.head?_dropWhile_not isBlank s
  rw [← trimStart, h] at first
  simpa using first

/-- Trimmed text does not end with a blank character. -/
theorem isBlank_of_getLast?_trim {s : List Char} {c : Char} (h : (trim s).getLast? = some c) :
    isBlank c = false := by
  rw [trim, trimEnd, List.getLast?_reverse] at h
  exact isBlank_of_head?_trimStart h

/-- Trimmed text does not begin with a blank character. -/
theorem isBlank_of_head?_trim {s : List Char} {c : Char} (h : (trim s).head? = some c) :
    isBlank c = false := by
  obtain ⟨t, ht⟩ := trimEnd_isPrefix (trimStart s)
  have starts : (trimEnd (trimStart s)).head? = some c := h
  cases hs : trimEnd (trimStart s) with
  | nil =>
    rw [hs] at starts
    cases starts
  | cons d u =>
    rw [hs] at starts ht
    refine isBlank_of_head?_trimStart (s := s) ?_
    rw [← ht]
    exact starts

/-- Trimming leaves nothing exactly of blank text. -/
theorem trim_eq_nil_iff (s : List Char) : trim s = [] ↔ ∀ c ∈ s, isBlank c = true := by
  have whole : trim s = [] ↔ trimStart s = [] := by
    rw [trim, trimEnd, List.reverse_eq_nil_iff]
    constructor
    · intro h
      -- A first character that is not blank would be left at the other end as well.
      cases hs : trimStart s with
      | nil => rfl
      | cons c t =>
        have blank := (trimStart_eq_nil_iff _).mp h c (by simp [hs])
        have sound := isBlank_of_head?_trimStart (s := s) (c := c) (by rw [hs]; rfl)
        rw [sound] at blank
        cases blank
    · intro h
      rw [h]
      rfl
  exact whole.trans (trimStart_eq_nil_iff s)

namespace Label

/-! ### The first occurrence -/

/-- What follows the first occurrence of a label on a line. -/
def Follows (label line rest : List Char) : Prop :=
  ∃ before, line = before ++ (label ++ rest) ∧
    ∀ before' rest', line = before' ++ (label ++ rest') → before.length ≤ before'.length

section Occurrence

variable {label line rest : List Char} {c : Char}

/-- The first occurrence is the one behind which the most is left. -/
theorem follows_iff_longest : Follows label line rest ↔
    (∃ before, line = before ++ (label ++ rest)) ∧
      ∀ before' rest', line = before' ++ (label ++ rest') → rest'.length ≤ rest.length := by
  have lengths : ∀ before before' rest', line = before ++ (label ++ rest) →
      line = before' ++ (label ++ rest') →
        (before.length ≤ before'.length ↔ rest'.length ≤ rest.length) := by
    intro before before' rest' split split'
    have same := congrArg List.length (split.symm.trans split')
    simp only [List.length_append] at same
    omega
  constructor
  · rintro ⟨before, split, first⟩
    exact ⟨⟨before, split⟩, fun before' rest' split' =>
      (lengths before before' rest' split split').mp (first before' rest' split')⟩
  · rintro ⟨⟨before, split⟩, longest⟩
    exact ⟨before, split, fun before' rest' split' =>
      (lengths before before' rest' split split').mpr (longest before' rest' split')⟩

theorem Follows.of_append (label rest : List Char) : Follows label (label ++ rest) rest :=
  ⟨[], rfl, fun _ _ _ => Nat.zero_le _⟩

/-- There is one first occurrence only. -/
theorem Follows.unique {rest' : List Char} (h : Follows label line rest)
    (h' : Follows label line rest') : rest = rest' := by
  obtain ⟨before, split, first⟩ := h
  obtain ⟨before', split', first'⟩ := h'
  have same : before.length = before'.length :=
    Nat.le_antisymm (first before' rest' split') (first' before rest split)
  exact List.append_cancel_left (List.append_inj_right (split.symm.trans split') same)

/-- A line that does not begin with a label is searched behind its first character. -/
theorem follows_cons_iff (h : ¬ label <+: c :: line) :
    Follows label (c :: line) rest ↔ Follows label line rest := by
  -- No occurrence stands at the front, so that each one is behind the first character.
  have behind : ∀ before rest, c :: line = before ++ (label ++ rest) →
      ∃ before', before = c :: before' ∧ line = before' ++ (label ++ rest) := by
    intro before rest split
    cases before with
    | nil => exact absurd ⟨rest, split.symm⟩ h
    | cons d before' =>
      obtain ⟨rfl, split'⟩ := List.cons.inj split
      exact ⟨before', rfl, split'⟩
  constructor
  · rintro ⟨before, split, first⟩
    obtain ⟨before', rfl, split'⟩ := behind before rest split
    refine ⟨before', split', fun other rest' there => ?_⟩
    exact Nat.le_of_succ_le_succ (first (c :: other) rest' (congrArg (c :: ·) there))
  · rintro ⟨before, split, first⟩
    refine ⟨c :: before, congrArg (c :: ·) split, fun other rest' there => ?_⟩
    obtain ⟨other', rfl, there'⟩ := behind other rest' there
    exact Nat.succ_le_succ (first other' rest' there')

/-- A line is searched for the first occurrence of a label. -/
theorem after?_eq_some_iff : after? label line = some rest ↔ Follows label line rest := by
  induction line with
  | nil =>
    rw [after?]
    constructor
    · intro h
      split at h
      · next empty =>
        rw [List.isEmpty_iff.mp empty, ← Option.some.inj h]
        exact .of_append [] []
      · cases h
    · rintro ⟨before, split, -⟩
      obtain ⟨-, split⟩ := List.append_eq_nil_iff.mp split.symm
      obtain ⟨rfl, rfl⟩ := List.append_eq_nil_iff.mp split
      rfl
  | cons c line ih =>
    rw [after?]
    split
    · next starts =>
      obtain ⟨rest', split⟩ := List.isPrefixOf_iff_prefix.mp starts
      rw [← split, List.drop_left, Option.some.injEq]
      constructor
      · rintro rfl
        exact .of_append label rest'
      · exact Follows.unique (.of_append label rest')
    · next other =>
      rw [List.isPrefixOf_iff_prefix] at other
      exact ih.trans (follows_cons_iff other).symm

end Occurrence

/-! ### The scan -/

/-- What the scan takes from a line: the text after the first occurrence of a label, if there is
any. -/
def rest? (label line : List Char) : Option (List Char) :=
  (after? label line).filter fun rest => !rest.isEmpty

theorem rest?_eq_some_iff {label line rest : List Char} :
    rest? label line = some rest ↔ Follows label line rest ∧ rest ≠ [] := by
  simp [rest?, Option.filter_eq_some_iff, after?_eq_some_iff]

/-- A text without line feeds that begins what was read, the last character first, does not reach
over the start of the line. -/
theorem isPrefix_of_isPrefix_append {label before current : List Char} (oneLine : '\n' ∉ label)
    (start : ∀ c, before.head? = some c → c = '\n') (h : label <+: current ++ before) :
    label <+: current := by
  induction current generalizing label with
  | nil =>
    cases label with
    | nil => exact List.prefix_rfl
    | cons c label =>
      obtain ⟨beyond, split⟩ := h
      have feed := start c (by rw [← List.nil_append before, ← split]; rfl)
      exact absurd (feed ▸ List.mem_cons_self) oneLine
  | cons c current ih =>
    cases label with
    | nil => exact List.nil_prefix
    | cons d label =>
      obtain ⟨rfl, within⟩ := List.cons_prefix_cons.mp h
      exact List.cons_prefix_cons.mpr
        ⟨rfl, ih (fun later => oneLine (List.mem_cons_of_mem d later)) within⟩

section Scan

variable {label before : List Char}

/-- A label on one line ends at a place exactly if it ends there within the line. -/
theorem isPrefixOf_reverse_iff (oneLine : '\n' ∉ label)
    (start : ∀ c, before.head? = some c → c = '\n') (current : List Char) :
    label.reverse.isPrefixOf (current.reverse ++ before) = true ↔
      ∃ front, current = front ++ label := by
  rw [List.isPrefixOf_iff_prefix]
  constructor
  · intro h
    have within := isPrefix_of_isPrefix_append (by simpa using oneLine) start h
    obtain ⟨front, split⟩ := List.reverse_prefix.mp within
    exact ⟨front, split.symm⟩
  · rintro ⟨front, rfl⟩
    rw [List.reverse_append, List.append_assoc]
    exact List.prefix_append _ _

/-- The first line of a text is what stands in front of its first line feed. -/
theorem takeWhile_of_lines {s line : List Char} {later : List (List Char)}
    (cut : lines s = line :: later) : s.takeWhile (· ≠ '\n') = line := by
  induction s generalizing line later with
  | nil =>
    obtain ⟨rfl, -⟩ := List.cons.inj cut
    rfl
  | cons c s ih =>
    rw [lines, pieces] at cut
    split at cut
    · next feed =>
      obtain ⟨rfl, -⟩ := List.cons.inj cut
      rw [List.takeWhile_cons_of_neg (by simpa using feed)]
    · next other =>
      split at cut
      · next none => exact absurd none (pieces_ne_nil _ _)
      · next p ps cut' =>
        obtain ⟨rfl, -⟩ := List.cons.inj cut
        rw [List.takeWhile_cons_of_pos (by simpa using other), ih cut']

/-- Nothing is taken from a line on which nothing can follow the label. -/
theorem rest?_eq_none_of_forall {line : List Char}
    (h : ∀ front rest, line = front ++ (label ++ rest) → rest.length ≤ 0) :
    rest? label line = none := by
  rw [Option.eq_none_iff_forall_ne_some]
  intro rest taken
  obtain ⟨⟨front, split, -⟩, full⟩ := rest?_eq_some_iff.mp taken
  exact full (List.length_eq_zero_iff.mp (Nat.le_zero.mp (h front rest split)))

/-- Of a line of which nothing has been read yet all is left. -/
theorem length_le_of_split {line : List Char} (front rest : List Char)
    (split : [] ++ line = front ++ (label ++ rest)) : rest.length ≤ line.length := by
  have same := congrArg List.length split
  simp only [List.nil_append, List.length_append] at same
  omega

/-- The scan takes from each line what its search gives.  Of the line at hand `current` has been
read, and `before` stands in front of it; as long as the line has not been used, no label ended
in front of the place. -/
theorem restsFrom_eq (oneLine : '\n' ∉ label) (s : List Char) {current line : List Char}
    {later : List (List Char)} (start : ∀ c, before.head? = some c → c = '\n')
    (cut : lines s = line :: later) :
    restsFrom label.reverse (current.reverse ++ before) true s = later.filterMap (rest? label) ∧
      ((∀ front rest, current ++ line = front ++ (label ++ rest) → rest.length ≤ line.length) →
        restsFrom label.reverse (current.reverse ++ before) false s =
          ((current ++ line) :: later).filterMap (rest? label)) := by
  induction s generalizing before current line later with
  | nil =>
    obtain ⟨rfl, rfl⟩ := List.cons.inj cut
    refine ⟨rfl, fun fresh => ?_⟩
    rw [List.filterMap_cons_none (rest?_eq_none_of_forall fresh)]
    rfl
  | cons c s ih =>
    rw [lines, pieces] at cut
    split at cut
    · next feed =>
      -- The line ends: nothing follows a label that ends with it, and the next line is untouched.
      obtain ⟨rfl, rfl⟩ := List.cons.inj cut
      obtain ⟨line, later, cut⟩ := List.exists_cons_of_ne_nil (pieces_ne_nil '\n' s)
      have next := (@ih (c :: (current.reverse ++ before)) [] _ _ (by simp [feed]) cut).2
        length_le_of_split
      rw [List.reverse_nil, List.nil_append, List.nil_append, ← cut] at next
      refine ⟨?_, fun fresh => ?_⟩
      · rw [restsFrom, if_pos feed]
        exact next
      · rw [restsFrom, if_pos feed, List.filterMap_cons_none (rest?_eq_none_of_forall fresh)]
        exact next
    · next other =>
      split at cut
      · next none => exact absurd none (pieces_ne_nil _ _)
      · next p ps cut' =>
        obtain ⟨rfl, rfl⟩ := List.cons.inj cut
        have step : c :: (current.reverse ++ before) = (current ++ [c]).reverse ++ before := by
          simp
        obtain ⟨used, unused⟩ := @ih before (current ++ [c]) _ _ start cut'
        rw [← step] at used unused
        refine ⟨?_, fun fresh => ?_⟩
        · rw [restsFrom, if_neg other, if_pos rfl]
          exact used
        · rw [restsFrom, if_neg other, if_neg Bool.false_ne_true]
          split
          · next ends =>
            obtain ⟨front, rfl⟩ := (isPrefixOf_reverse_iff oneLine start current).mp ends
            have taken : rest? label (front ++ label ++ c :: p) = some (c :: p) := by
              refine rest?_eq_some_iff.mpr ⟨follows_iff_longest.mpr ⟨⟨front, ?_⟩, fresh⟩, by simp⟩
              rw [List.append_assoc]
            have ahead : (c :: s).takeWhile (· ≠ '\n') = c :: p := by
              rw [List.takeWhile_cons_of_pos (by simpa using other), takeWhile_of_lines cut']
            rw [List.filterMap_cons_some taken, ahead, used]
          · next goesOn =>
            rw [List.append_assoc, List.singleton_append] at unused
            refine unused fun front rest split => ?_
            have bound := fresh front rest split
            rw [List.length_cons] at bound
            -- A label with one character more behind it would end right here.
            refine Nat.le_of_lt_succ (Nat.lt_of_le_of_ne bound fun same => goesOn ?_)
            rw [isPrefixOf_reverse_iff oneLine start]
            have whole : current ++ c :: p = front ++ label ++ rest := by
              rw [split, List.append_assoc]
            exact ⟨front, (List.append_inj' whole same.symm).1⟩

end Scan

/-- The scan of a whole text. -/
theorem rests_eq {label : List Char} (oneLine : '\n' ∉ label) (text : List Char) :
    rests label text = (lines text).filterMap (rest? label) := by
  obtain ⟨line, later, cut⟩ := List.exists_cons_of_ne_nil (pieces_ne_nil '\n' text)
  have scan := (@restsFrom_eq label [] oneLine text [] _ _ nofun cut).2 length_le_of_split
  rw [List.nil_append, ← cut] at scan
  exact scan

/-! ### Growing text -/

/-- Text behind a text only makes the rest longer that reaches to its end, and adds others. -/
theorem exists_of_mem_restsFrom {label before rest s : List Char} {taken : Bool}
    (more : List Char) (there : rest ∈ restsFrom label before taken s) :
    ∃ rest' ∈ restsFrom label before taken (s ++ more), rest <+: rest' := by
  induction s generalizing before taken with
  | nil => cases there
  | cons c s ih =>
    rw [restsFrom] at there
    rw [List.cons_append, restsFrom]
    split
    · next feed =>
      rw [if_pos feed] at there
      exact ih there
    · next other =>
      rw [if_neg other] at there
      split
      · next used =>
        rw [if_pos used] at there
        exact ih there
      · next unused =>
        rw [if_neg unused] at there
        split
        · next ends =>
          rw [if_pos ends] at there
          rcases List.mem_cons.mp there with rfl | later
          · refine ⟨_, List.mem_cons_self, ?_⟩
            rw [← List.cons_append, List.takeWhile_append]
            split
            · next whole =>
              have upTo := List.takeWhile_prefix (l := c :: s) fun d => decide (d ≠ '\n')
              exact upTo.trans (List.prefix_append _ _)
            · exact List.prefix_rfl
          · obtain ⟨rest', there', grown⟩ := ih later
            exact ⟨rest', List.mem_cons_of_mem _ there', grown⟩
        · next goesOn =>
          rw [if_neg goesOn] at there
          exact ih there

theorem isSome_value?_iff {label text : String} : (value? label text).isSome = true ↔
    ∃ rest ∈ rests label.toList text.toList, trim rest ≠ [] := by
  rw [value?, List.isSome_head?, ← List.isEmpty_eq_false_iff, List.isEmpty_eq_false_iff_exists_mem]
  simp only [values, List.filterMap_map, List.mem_filterMap]
  constructor
  · rintro ⟨v, rest, there, kept⟩
    refine ⟨rest, there, fun blank => ?_⟩
    simp [blank] at kept
  · rintro ⟨rest, there, full⟩
    exact ⟨String.ofList (trim rest), rest, there, by simp [full]⟩

/-- A text in which a label has a value keeps one, whatever is written behind it. -/
theorem isSome_value?_append {label text : String} (more : String)
    (found : (value? label text).isSome = true) : (value? label (text ++ more)).isSome = true := by
  obtain ⟨rest, there, full⟩ := isSome_value?_iff.mp found
  obtain ⟨rest', there', grown⟩ := exists_of_mem_restsFrom more.toList there
  rw [isSome_value?_iff, rests, String.toList_append]
  refine ⟨rest', there', fun blank => full ?_⟩
  -- A longer rest is blank only where the shorter one is.
  exact (trim_eq_nil_iff rest).mpr fun c here =>
    (trim_eq_nil_iff rest').mp blank c (grown.subset here)

/-! ### Values -/

/-- How the values of a label are read. -/
structure ReadByLine (label text : String) : Prop where
  /-- Each line that holds the label gives the trimmed text behind its first occurrence, unless that
  is empty, in the order of the lines. -/
  values_eq : values label text = (lineValues label.toList text.toList).map String.ofList
  /-- The first of them is the value of the label. -/
  value?_eq : value? label text = ((lineValues label.toList text.toList).map String.ofList).head?
  /-- Every value comes from a line in this way. -/
  mem_iff : ∀ v, v ∈ values label text ↔ v ≠ "" ∧ ∃ line ∈ lines text.toList, ∃ rest,
    Follows label.toList line rest ∧ v.toList = trim rest
  /-- A value is a text on one line without blank ends. -/
  tidy : ∀ v ∈ values label text, v ≠ "" ∧ '\n' ∉ v.toList ∧
    (∀ c, v.toList.head? = some c → isBlank c = false) ∧
      ∀ c, v.toList.getLast? = some c → isBlank c = false
  /-- There is no value exactly if only blank text follows the label on every line. -/
  none_iff : value? label text = none ↔ ∀ line ∈ lines text.toList, ∀ rest,
    Follows label.toList line rest → ∀ c ∈ rest, isBlank c = true

section Values

variable {label text : String}

theorem mem_lineValues_iff {label text v : List Char} : v ∈ lineValues label text ↔
    v ≠ [] ∧ ∃ line ∈ lines text, ∃ rest, Follows label line rest ∧ v = trim rest := by
  simp only [lineValues, List.mem_filter, List.mem_map, List.mem_filterMap, after?_eq_some_iff,
    Bool.not_eq_true', List.isEmpty_eq_false_iff]
  constructor
  · rintro ⟨⟨rest, ⟨line, there, follows⟩, rfl⟩, full⟩
    exact ⟨full, line, there, rest, follows, rfl⟩
  · rintro ⟨full, line, there, rest, follows, rfl⟩
    exact ⟨⟨rest, ⟨line, there, follows⟩, rfl⟩, full⟩

/-- The values of a label on one line are those that its lines give. -/
theorem values_eq_lineValues (oneLine : '\n' ∉ label.toList) (text : String) :
    values label text = (lineValues label.toList text.toList).map String.ofList := by
  -- An empty rest, which the scan leaves out, is trimmed to an empty value, which is left out too.
  have each : ∀ ls : List (List Char),
      ((ls.filterMap (rest? label.toList)).map trim).filterMap
          (fun v => if v.isEmpty then none else some (String.ofList v)) =
        (((ls.filterMap (after? label.toList)).map trim).filter (!·.isEmpty)).map
          String.ofList := by
    intro ls
    induction ls with
    | nil => rfl
    | cons line ls ih =>
      cases found : after? label.toList line with
      | none =>
        have nothing : rest? label.toList line = none := by rw [rest?, found]; rfl
        rw [List.filterMap_cons_none nothing, List.filterMap_cons_none found, ih]
      | some rest =>
        rw [List.filterMap_cons_some found]
        cases rest with
        | nil =>
          have nothing : rest? label.toList line = none := by rw [rest?, found]; rfl
          rw [List.filterMap_cons_none nothing, ih]
          rfl
        | cons c rest =>
          have taken : rest? label.toList line = some (c :: rest) := by rw [rest?, found]; rfl
          rw [List.filterMap_cons_some taken, List.map_cons, List.map_cons, List.filterMap_cons,
            List.filter_cons, ih]
          cases (trim (c :: rest)).isEmpty <;> rfl
  rw [values, rests_eq oneLine, each, lineValues]

/-- The values of a label that lies on one line are read line by line. -/
theorem values_readByLine (label text : String) (oneLine : '\n' ∉ label.toList) :
    ReadByLine label text := by
  have all := values_eq_lineValues oneLine text
  have mem_iff : ∀ v, v ∈ values label text ↔ v ≠ "" ∧ ∃ line ∈ lines text.toList, ∃ rest,
      Follows label.toList line rest ∧ v.toList = trim rest := by
    intro v
    rw [all, List.mem_map]
    constructor
    · rintro ⟨cs, there, rfl⟩
      obtain ⟨full, line⟩ := mem_lineValues_iff.mp there
      rw [String.toList_ofList]
      exact ⟨by simpa using full, line⟩
    · rintro ⟨full, line⟩
      exact ⟨v.toList, mem_lineValues_iff.mpr ⟨by simpa using full, line⟩, String.ofList_toList⟩
  refine ⟨all, by rw [value?, all], mem_iff, fun v there => ?_, ?_⟩
  · obtain ⟨full, line, ofText, rest, ⟨before, split, -⟩, trimmed⟩ := (mem_iff v).mp there
    refine ⟨full, fun feed => ?_, ?_, ?_⟩
    · -- The value is a part of its line, on which there is no line feed.
      refine not_mem_of_mem_pieces '\n' _ line ofText ?_
      rw [split]
      rw [trimmed] at feed
      exact List.mem_append_right _ (List.mem_append_right _ ((trim_isInfix rest).subset feed))
    · rw [trimmed]
      exact fun c => isBlank_of_head?_trim
    · rw [trimmed]
      exact fun c => isBlank_of_getLast?_trim
  · rw [value?, List.head?_eq_none_iff, List.eq_nil_iff_forall_not_mem]
    constructor
    · intro none line there rest follows
      rw [← trim_eq_nil_iff]
      refine Classical.byContradiction fun full => none (String.ofList (trim rest)) ?_
      exact (mem_iff _).mpr
        ⟨by simpa using full, line, there, rest, follows, String.toList_ofList⟩
    · rintro blank v there
      obtain ⟨full, line, ofText, rest, follows, trimmed⟩ := (mem_iff v).mp there
      rw [(trim_eq_nil_iff rest).mpr (blank line ofText rest follows)] at trimmed
      exact full (by simpa using trimmed)

/-- Of two labels on a line the first one counts, and a label without a value is passed over. -/
theorem values_readByLine_sample :
    '\n' ∉ "Leaf: ".toList ∧
      values "Leaf: " "Root: 1\n  Leaf: \nLeaf: 2 Leaf: 3\r\n Leaf:4\nLeaf: 5" =
        ["2 Leaf: 3", "5"] ∧
      ReadByLine "Leaf: " "Root: 1\n  Leaf: \nLeaf: 2 Leaf: 3\r\n Leaf:4\nLeaf: 5" :=
  ⟨by decide, by decide +kernel, values_readByLine _ _ (by decide)⟩

end Values

end Label

end ProofRelay.Text
