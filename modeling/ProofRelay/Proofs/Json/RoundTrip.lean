import ProofRelay.Json.Compare
import ProofRelay.Proofs.Json.Texts

/-!
# Documents that read back

A document is read back to the value that it was written for, whether it is compact or has one item
on a line.  This is shown for the values without numbers, such as all that a plan is made of: the
three words, texts, lists, and objects with different names.

The two ways to write a value differ in the space between the tokens only.  So a document is taken
here as a *layout* with the value written into it, and the two ways to write a document are two
layouts.  By the grammar, a value written with any layout of space denotes it.

## Main definitions

* `Json.IsPlain` : the values without numbers whose objects have different names.
* `Json.Layout`, `Json.written` : what stands between the tokens, and a value written with it.
* `Json.Layout.dense`, `Json.Layout.lines` : the layouts of the two ways to write a document.

## Main results

* `Json.toList_compact`, `Json.toList_indentedAt` : the two ways to write a document are layouts.
* `Json.denotes_written` : a written value denotes it.
* `Json.read_compact`, `Json.read_indented` : a document reads back.
* `Json.same_self` : a plain value equals itself.
* `Json.isPrintable_of_mem_compact` : a compact document is made of printable characters.
* `Json.isLaidOut_of_mem_indented` : a document with one item on a line has line ends besides.
-/

namespace ProofRelay.Json

open ProofRelay.Text

/-! ### Plain values -/

/-- A name that is written as a text is: no character of it stands in for a half. -/
def IsPlainName (s : String) : Prop :=
  pointsOfText s = s.toList.map Char.toNat

/-- The code points of a text that cannot be written without the halves that stand alone in it. -/
def AreTorn (ps : List Nat) : Prop :=
  ps.any isHalf = true ∧ AreJoined ps

mutual

/-- The values without numbers whose objects have different names. -/
def IsPlain : Json → Prop
  | null | bool _ | str _ => True
  | torn ps => AreTorn ps
  | arr xs => ArePlain xs
  | obj fs => ArePlainFields fs ∧ (fs.map (·.1)).Nodup
  | _ => False

/-- The items that are plain. -/
def ArePlain : List Json → Prop
  | [] => True
  | v :: vs => IsPlain v ∧ ArePlain vs

/-- The fields that are plain. -/
def ArePlainFields : List (String × Json) → Prop
  | [] => True
  | (k, v) :: fs => (IsPlainName k ∧ IsPlain v) ∧ ArePlainFields fs

end

theorem quoteName_of_isPlainName {s : String} (h : IsPlainName s) : quoteName s = quoteText s := by
  rw [quoteName, h, quoteText_eq_quotePoints]

/-- A name in ASCII is plain. -/
theorem isPlainName_of_ascii {s : String} (h : ∀ c ∈ s.toList, c.toNat < 0x80) :
    IsPlainName s := by
  refine List.map_congr_left fun c hc => ?_
  have small := h c hc
  have far : isHalf (c.toNat - standInOffset) = false := by
    have offset : standInOffset = 0x100000 := rfl
    simp only [isHalf, Bool.and_eq_false_iff, decide_eq_false_iff_not]
    omega
  rw [pointOfChar, far, if_neg Bool.false_ne_true]

/-! ### Objects from writes -/

theorem put_of_not_mem {key : String} {fs : Fields} (value : Json) (h : key ∉ fs.map (·.1)) :
    put key value fs = fs ++ [(key, value)] := by
  induction fs with
  | nil => rfl
  | cons f fs ih =>
    obtain ⟨k, v⟩ := f
    rw [List.map_cons, List.mem_cons, not_or] at h
    rw [put, if_neg (Ne.symm h.1), ih h.2]
    rfl

/-- Writes to different names are the fields in their order. -/
theorem ofWrites_of_nodup {fs : Fields} (h : (fs.map (·.1)).Nodup) : ofWrites fs = fs := by
  have writes : ∀ gs hs : Fields, ((hs ++ gs).map (·.1)).Nodup →
      gs.foldl (fun fs w => put w.1 w.2 fs) hs = hs ++ gs := by
    intro gs
    induction gs with
    | nil =>
      intro hs _
      rw [List.append_nil]
      rfl
    | cons g gs ih =>
      intro hs nodup
      have fresh : g.1 ∉ hs.map (·.1) := by
        rw [List.map_append, List.nodup_append] at nodup
        intro hg
        exact nodup.2.2 _ hg _ (by simp) rfl
      rw [List.foldl_cons, put_of_not_mem g.2 fresh, ih _ (by simpa using nodup)]
      simp
  exact writes fs [] h

/-! ### Plain values equal themselves -/

/-- In an object with different names every field is found under its name. -/
theorem get?_of_mem {fs : Fields} (nodup : (fs.map (·.1)).Nodup) {f : String × Json}
    (hf : f ∈ fs) : get? f.1 fs = some f.2 := by
  induction fs with
  | nil => cases hf
  | cons g gs ih =>
    rw [List.map_cons, List.nodup_cons] at nodup
    rw [get?]
    rcases List.mem_cons.1 hf with rfl | hf
    · rw [if_pos rfl]
    · rw [if_neg, ih nodup.2 hf]
      intro same
      exact nodup.1 (same ▸ List.mem_map_of_mem hf)

mutual

/-- A plain value equals itself. -/
theorem sameAt_self : ∀ v : Json, v.IsPlain → ∀ nested, sameAt nested v v = true
  | .null => fun _ _ => rfl
  | .bool _ => fun _ _ => by simp [sameAt, number?, Magnitude.same]
  | .str _ => fun _ _ => by simp [sameAt]
  | .torn _ => fun _ _ => by simp [sameAt]
  | .arr vs => fun plain _ => by
    rw [sameAt]
    exact sameItems_self vs plain
  | .obj fs => fun plain _ => by
    rw [sameAt, beq_self_eq_true, Bool.true_and]
    exact sameFields_self fs plain.1 fs fun f hf => get?_of_mem plain.2 hf
  | .int _ | .float _ => fun plain => by cases plain

theorem sameItems_self : ∀ vs : List Json, ArePlain vs → sameItems vs vs = true
  | [] => fun _ => rfl
  | v :: vs => fun plain => by
    rw [sameItems, sameAt_self v plain.1, sameItems_self vs plain.2, Bool.and_self]

theorem sameFields_self : ∀ fs : Fields, ArePlainFields fs →
    ∀ gs, (∀ f ∈ fs, get? f.1 gs = some f.2) → sameFields fs gs = true
  | [] => fun _ _ _ => rfl
  | (k, v) :: fs => fun plain gs found => by
    have here := found (k, v) List.mem_cons_self
    dsimp only at here
    rw [sameFields, here]
    dsimp only
    rw [sameAt_self v plain.1.2,
      sameFields_self fs plain.2 gs fun f hf => found f (List.mem_cons_of_mem _ hf), Bool.and_self]

end

theorem same_self {v : Json} (plain : v.IsPlain) : v.same v = true :=
  sameAt_self v plain false

/-! ### Layouts -/

/-- What stands between the tokens of a document: in front of an item at a depth, where the end of a
list or an object stands at the depth around it, and behind the colon after a name. -/
structure Layout where
  /-- What stands in front of an item at a depth. -/
  lead : Nat → List Char
  /-- What stands behind a colon. -/
  gap : List Char

/-- The layout of a compact document. -/
def Layout.dense : Layout := ⟨fun _ => [], []⟩

/-- The layout of a document with one item on a line. -/
def Layout.lines : Layout := ⟨fun depth => (lineStart depth).toList, [' ']⟩

/-- Whether only space stands between the tokens. -/
structure Layout.IsSpace (l : Layout) : Prop where
  /-- In front of an item. -/
  lead : ∀ depth, IsGap (l.lead depth)
  /-- Behind a colon. -/
  gap : IsGap l.gap

theorem Layout.isSpace_dense : dense.IsSpace :=
  ⟨fun _ => isGap_nil, isGap_nil⟩

theorem toList_lineStart (depth : Nat) :
    (lineStart depth).toList = '\n' :: List.replicate (2 * depth) ' ' :=
  String.toList_ofList

theorem Layout.isSpace_lines : lines.IsSpace := by
  refine ⟨fun depth c hc => ?_, fun c hc => ?_⟩
  · change c ∈ (lineStart depth).toList at hc
    rw [toList_lineStart, List.mem_cons] at hc
    rcases hc with rfl | hc
    · rfl
    · rw [List.eq_of_mem_replicate hc]
      rfl
  · rw [List.mem_singleton.1 hc]
    rfl

mutual

/-- A value written at a depth of a layout. -/
def written (l : Layout) (depth : Nat) : Json → List Char
  | arr (v :: vs) =>
    '[' :: (l.lead (depth + 1) ++ (written l (depth + 1) v ++
      (writtenItems l (depth + 1) vs ++ (l.lead depth ++ [']']))))
  | obj (f :: fs) =>
    '\x7b' :: (l.lead (depth + 1) ++ (writtenField l (depth + 1) f ++
      (writtenFields l (depth + 1) fs ++ (l.lead depth ++ ['\x7d']))))
  | v => (scalar v).toList

/-- The items of a list after its first one. -/
def writtenItems (l : Layout) (depth : Nat) : List Json → List Char
  | [] => []
  | v :: vs => ',' :: (l.lead depth ++ (written l depth v ++ writtenItems l depth vs))

/-- The fields of an object after its first one. -/
def writtenFields (l : Layout) (depth : Nat) : List (String × Json) → List Char
  | [] => []
  | f :: fs => ',' :: (l.lead depth ++ (writtenField l depth f ++ writtenFields l depth fs))

/-- A field of an object. -/
def writtenField (l : Layout) (depth : Nat) : String × Json → List Char
  | (k, v) => (quoteName k).toList ++ ':' :: (l.gap ++ written l depth v)

end

/-! ### The two ways to write a document -/

theorem toList_intercalate_cons (sep x : String) (xs : List String) :
    (sep.intercalate (x :: xs)).toList =
      x.toList ++ xs.flatMap fun y => sep.toList ++ y.toList := by
  induction xs generalizing x with
  | nil => simp
  | cons y ys ih =>
    rw [String.intercalate_cons_cons, String.toList_append, String.toList_append, ih,
      List.flatMap_cons]
    simp only [List.append_assoc]

mutual

/-- A compact document is dense. -/
theorem toList_compact : ∀ (v : Json) (depth : Nat), (compact v).toList = written .dense depth v
  | .null, _ | .bool _, _ | .int _, _ | .float _, _ | .str _, _ | .torn _, _ => rfl
  | .arr [], _ | .obj [], _ => rfl
  | .arr (v :: vs), depth => by
    rw [compact, compactItems, written, String.toList_append, String.toList_append,
      toList_intercalate_cons, toList_compact v (depth + 1),
      flatMap_compactItems vs (depth + 1)]
    simp [Layout.dense]
  | .obj ((k, v) :: fs), depth => by
    rw [compact, compactFields, written, writtenField, String.toList_append, String.toList_append,
      toList_intercalate_cons, ← toList_compact v (depth + 1),
      flatMap_compactFields fs (depth + 1)]
    simp [Layout.dense]

theorem flatMap_compactItems : ∀ (vs : List Json) (depth : Nat),
    ((compactItems vs).flatMap fun y => ",".toList ++ y.toList) = writtenItems .dense depth vs
  | [], _ => rfl
  | v :: vs, depth => by
    rw [compactItems, List.flatMap_cons, writtenItems, toList_compact v depth,
      flatMap_compactItems vs depth]
    simp [Layout.dense]

theorem flatMap_compactFields : ∀ (fs : Fields) (depth : Nat),
    ((compactFields fs).flatMap fun y => ",".toList ++ y.toList) = writtenFields .dense depth fs
  | [], _ => rfl
  | (k, v) :: fs, depth => by
    rw [compactFields, List.flatMap_cons, writtenFields, writtenField, ← toList_compact v depth,
      flatMap_compactFields fs depth]
    simp [Layout.dense]

end

mutual

/-- A document with one item on a line has lines. -/
theorem toList_indentedAt : ∀ (v : Json) (depth : Nat),
    (indentedAt depth v).toList = written .lines depth v
  | .null, _ | .bool _, _ | .int _, _ | .float _, _ | .str _, _ | .torn _, _ => rfl
  | .arr [], _ | .obj [], _ => rfl
  | .arr (v :: vs), depth => by
    rw [indentedAt, indentedItems, written]
    simp only [String.toList_append]
    rw [toList_intercalate_cons, toList_indentedAt v (depth + 1),
      flatMap_indentedItems vs (depth + 1)]
    simp [Layout.lines]
  | .obj ((k, v) :: fs), depth => by
    rw [indentedAt, indentedFields, written, writtenField, ← toList_indentedAt v (depth + 1)]
    simp only [String.toList_append]
    rw [toList_intercalate_cons, flatMap_indentedFields fs (depth + 1)]
    simp [Layout.lines]

theorem flatMap_indentedItems : ∀ (vs : List Json) (depth : Nat),
    ((indentedItems depth vs).flatMap fun y => ("," ++ lineStart depth).toList ++ y.toList) =
      writtenItems .lines depth vs
  | [], _ => rfl
  | v :: vs, depth => by
    rw [indentedItems, List.flatMap_cons, writtenItems, toList_indentedAt v depth,
      flatMap_indentedItems vs depth]
    simp [Layout.lines]

theorem flatMap_indentedFields : ∀ (fs : Fields) (depth : Nat),
    ((indentedFields depth fs).flatMap fun y => ("," ++ lineStart depth).toList ++ y.toList) =
      writtenFields .lines depth fs
  | [], _ => rfl
  | (k, v) :: fs, depth => by
    rw [indentedFields, List.flatMap_cons, writtenFields, writtenField,
      ← toList_indentedAt v depth, flatMap_indentedFields fs depth]
    simp [Layout.lines]

end

/-! ### Denoting a layout -/

variable {l : Layout}

theorem writtenField_of_isPlainName {k : String} (h : IsPlainName k) (v : Json) (depth : Nat) :
    writtenField l depth (k, v) =
      '"' :: (k.toList.flatMap writeChar ++
        '"' :: ([] ++ ':' :: (l.gap ++ written l depth v))) := by
  rw [writtenField, quoteName_of_isPlainName h, quoteText, String.toList_ofList]
  simp

/-- A field denotes it, if its value does. -/
theorem denotes_writtenField (space : l.IsSpace) {k : String} {v : Json} (name : IsPlainName k)
    {depth : Nat} (value : Denotes (.value v) (written l depth v)) :
    Denotes (.field (k, v)) (writtenField l depth (k, v)) := by
  have joined := areJoined_toNat k.toList
  have denotes := Denotes.field (spellsText_flatMap_writePoint joined.bound) isGap_nil space.gap
    value
  rwa [joinHalves_flatMap_units joined, textOfPoints_toNat, ← flatMap_writeChar,
    ← writtenField_of_isPlainName name] at denotes

mutual

/-- A written value denotes it. -/
theorem denotes_written (space : l.IsSpace) : ∀ (v : Json) (depth : Nat), v.IsPlain →
    Denotes (.value v) (written l depth v)
  | .null, _ => fun _ => .word (w := ("null", .null)) (by simp [words])
  | .bool true, _ => fun _ => .word (w := ("true", .bool true)) (by simp [words])
  | .bool false, _ => fun _ => .word (w := ("false", .bool false)) (by simp [words])
  | .str s, _ => fun _ => denotes_quoteText s
  | .torn ps, _ => fun plain => by
    have denotes := denotes_quotePoints plain.2
    rwa [ofPoints, if_pos plain.1] at denotes
  | .arr [], _ => fun _ => .emptyList isGap_nil
  | .arr (v :: vs), depth => fun plain => by
    have items := denotes_writtenItems space v vs (depth + 1) plain.1 plain.2 (space.lead depth)
    have denotes := Denotes.list (space.lead (depth + 1)) items
    simpa only [written, List.append_assoc] using denotes
  | .obj [], _ => fun _ => .emptyObject isGap_nil
  | .obj (f :: fs), depth => fun plain => by
    have members := denotes_writtenFields space f fs (depth + 1) plain.1.1 plain.1.2
      (space.lead depth)
    have denotes := Denotes.object (space.lead (depth + 1)) members
    rw [ofWrites_of_nodup plain.2] at denotes
    simpa only [written, List.append_assoc] using denotes
  | .int _, _ | .float _, _ => fun plain => by cases plain
termination_by v => sizeOf v
decreasing_by all_goals (simp_wf; omega)

/-- The items of a list, with space behind them, denote them. -/
theorem denotes_writtenItems (space : l.IsSpace) : ∀ (v : Json) (vs : List Json) (depth : Nat),
    v.IsPlain → ArePlain vs → ∀ {tail : List Char}, IsGap tail →
      Denotes (.items (v :: vs)) (written l depth v ++ (writtenItems l depth vs ++ tail))
  | v, [], depth => fun plain _ _ blank => .lastItem (denotes_written space v depth plain) blank
  | v, w :: ws, depth => fun plain others _ blank => by
    have more := denotes_writtenItems space w ws depth others.1 others.2 blank
    have denotes := Denotes.item (denotes_written space v depth plain) isGap_nil (space.lead depth)
      more
    simpa only [writtenItems, List.nil_append, List.cons_append, List.append_assoc] using denotes
termination_by v vs => sizeOf v + sizeOf vs + 1
decreasing_by all_goals simp_wf <;> omega

/-- The fields of an object, with space behind them, denote them. -/
theorem denotes_writtenFields (space : l.IsSpace) : ∀ (f : String × Json) (fs : Fields)
    (depth : Nat), IsPlainName f.1 ∧ f.2.IsPlain → ArePlainFields fs → ∀ {tail : List Char},
      IsGap tail →
        Denotes (.members (f :: fs)) (writtenField l depth f ++ (writtenFields l depth fs ++ tail))
  | (k, v), [], depth => fun plain _ _ blank =>
    .lastMember (denotes_writtenField space plain.1 (denotes_written space v depth plain.2)) blank
  | (k, v), g :: gs, depth => fun plain others _ blank => by
    have member := denotes_writtenField space plain.1 (denotes_written space v depth plain.2)
    have more := denotes_writtenFields space g gs depth others.1 others.2 blank
    have denotes := Denotes.member member isGap_nil (space.lead depth) more
    simpa only [writtenFields, List.nil_append, List.cons_append, List.append_assoc] using denotes
termination_by f fs => sizeOf f + sizeOf fs + 1
decreasing_by all_goals (simp_wf; omega)

end

/-- A document that is a written value and space behind it reads back. -/
theorem read_of_written (space : l.IsSpace) {v : Json} (plain : v.IsPlain) {text : String}
    {tail : List Char} (document : text.toList = written l 0 v ++ tail)
    (blank : IsGap tail) : read text = .ok v := by
  rw [read, document]
  exact readChars_of_denotes (denotes_written space v 0 plain) isGap_nil blank

/-- A compact document reads back. -/
theorem read_compact {v : Json} (plain : v.IsPlain) : read (compact v) = .ok v :=
  read_of_written Layout.isSpace_dense plain
    ((toList_compact v 0).trans (List.append_nil _).symm) isGap_nil

/-- A document with one item on a line reads back, also with the end of its last line. -/
theorem read_indented {v : Json} (plain : v.IsPlain) : read (indented v ++ "\n") = .ok v := by
  have blank : IsGap ['\n'] := fun c hc => by rw [List.mem_singleton.1 hc]; rfl
  refine read_of_written Layout.isSpace_lines plain ?_ blank
  rw [String.toList_append, indented, toList_indentedAt]
  rfl

/-! ### Printable characters -/

/-- Whether a character may stand in a document: it is printable, or stands between the tokens. -/
def Layout.Allows (l : Layout) (c : Char) : Prop :=
  IsPrintable c ∨ (∃ depth, c ∈ l.lead depth) ∨ c ∈ l.gap

mutual

/-- A written value is made of printable characters and of what stands between the tokens. -/
theorem allows_of_mem_written : ∀ v : Json, v.IsPlain →
    ∀ depth, ∀ c ∈ written l depth v, l.Allows c
  | .null => fun _ _ c hc => .inl (isPrintable_of_all rfl c hc)
  | .bool true => fun _ _ c hc => .inl (isPrintable_of_all rfl c hc)
  | .bool false => fun _ _ c hc => .inl (isPrintable_of_all rfl c hc)
  | .str s => fun _ _ c hc => .inl (isPrintable_of_mem_quoteText hc)
  | .torn ps => fun _ _ c hc => .inl (isPrintable_of_mem_quotePoints hc)
  | .arr [] => fun _ _ c hc => .inl (isPrintable_of_all rfl c hc)
  | .obj [] => fun _ _ c hc => .inl (isPrintable_of_all rfl c hc)
  | .arr (v :: vs) => by
    intro plain depth c hc
    simp only [written, List.mem_cons, List.mem_append, List.not_mem_nil, or_false] at hc
    rcases hc with rfl | hc | hc | hc | hc | rfl
    · exact .inl (by decide)
    · exact .inr (.inl ⟨_, hc⟩)
    · exact allows_of_mem_written v plain.1 _ c hc
    · exact allows_of_mem_writtenItems vs plain.2 _ c hc
    · exact .inr (.inl ⟨_, hc⟩)
    · exact .inl (by decide)
  | .obj (f :: fs) => by
    intro plain depth c hc
    simp only [written, List.mem_cons, List.mem_append, List.not_mem_nil, or_false] at hc
    rcases hc with rfl | hc | hc | hc | hc | rfl
    · exact .inl (by decide)
    · exact .inr (.inl ⟨_, hc⟩)
    · exact allows_of_mem_writtenField f plain.1.1 _ c hc
    · exact allows_of_mem_writtenFields fs plain.1.2 _ c hc
    · exact .inr (.inl ⟨_, hc⟩)
    · exact .inl (by decide)
  | .int _ | .float _ => by
    intro plain
    cases plain

theorem allows_of_mem_writtenItems : ∀ vs : List Json, ArePlain vs →
    ∀ depth, ∀ c ∈ writtenItems l depth vs, l.Allows c
  | [] => fun _ _ => List.forall_mem_nil _
  | v :: vs => by
    intro plain depth c hc
    simp only [writtenItems, List.mem_cons, List.mem_append] at hc
    rcases hc with rfl | hc | hc | hc
    · exact .inl (by decide)
    · exact .inr (.inl ⟨_, hc⟩)
    · exact allows_of_mem_written v plain.1 _ c hc
    · exact allows_of_mem_writtenItems vs plain.2 _ c hc

theorem allows_of_mem_writtenFields : ∀ fs : Fields, ArePlainFields fs →
    ∀ depth, ∀ c ∈ writtenFields l depth fs, l.Allows c
  | [] => fun _ _ => List.forall_mem_nil _
  | f :: fs => by
    intro plain depth c hc
    simp only [writtenFields, List.mem_cons, List.mem_append] at hc
    rcases hc with rfl | hc | hc | hc
    · exact .inl (by decide)
    · exact .inr (.inl ⟨_, hc⟩)
    · exact allows_of_mem_writtenField f plain.1 _ c hc
    · exact allows_of_mem_writtenFields fs plain.2 _ c hc

theorem allows_of_mem_writtenField : ∀ f : String × Json, IsPlainName f.1 ∧ f.2.IsPlain →
    ∀ depth, ∀ c ∈ writtenField l depth f, l.Allows c
  | (k, v) => by
    intro plain depth c hc
    simp only [writtenField, quoteName_of_isPlainName plain.1, List.mem_cons, List.mem_append] at hc
    rcases hc with hc | rfl | hc | hc
    · exact .inl (isPrintable_of_mem_quoteText hc)
    · exact .inl (by decide)
    · exact .inr (.inr hc)
    · exact allows_of_mem_written v plain.2 _ c hc

end

/-- A compact document is made of printable characters. -/
theorem isPrintable_of_mem_compact (v : Json) (plain : v.IsPlain) :
    ∀ c ∈ (compact v).toList, IsPrintable c := by
  intro c hc
  rw [toList_compact v 0] at hc
  rcases allows_of_mem_written v plain 0 c hc with printable | ⟨_, hc⟩ | hc
  · exact printable
  · cases hc
  · cases hc

/-- A document with one item on a line is made of printable characters and line ends. -/
theorem isLaidOut_of_mem_indented (v : Json) (plain : v.IsPlain) :
    ∀ c ∈ (indented v).toList, IsPrintable c ∨ c = '\n' := by
  intro c hc
  rw [indented, toList_indentedAt] at hc
  rcases allows_of_mem_written v plain 0 c hc with printable | ⟨depth, hc⟩ | hc
  · exact .inl printable
  · change c ∈ (lineStart depth).toList at hc
    rw [toList_lineStart, List.mem_cons] at hc
    rcases hc with rfl | hc
    · exact .inr rfl
    · rw [List.eq_of_mem_replicate hc]
      exact .inl (by decide)
  · rw [List.mem_singleton.1 hc]
    exact .inl (by decide)

end ProofRelay.Json
