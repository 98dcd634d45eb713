import Mathlib.Data.List.Induction
import ProofRelay.Proofs.Files.Contents

/-!
# Directories with the missing ones above them

A directory is made at a path together with the missing ones above it, from the top downwards.
What stands in the way is settled before anything is made: a file at the path or at a path above
it, or a name that no directory can have.  For nothing that is made on the way is a file, so that a
path without a file on it has none on it later either.

## Main definitions

* `Path.upwards` : a path and the paths above it.
* `Path.IsNameable` : paths whose names directories can have.
* `FileTree.IsBlocked` : paths with a file on them.
* `FileTree.IsOpen` : paths that lead to a directory.

## Main results

* `FileTree.locate_of_clear` : a path without a file on it leads to its location, or a directory on
  it is missing.
* `FileTree.isOpen_of_ensureDirectories` : a path at which a directory was made leads to it.
* `FileTree.makeDirectories_iff` : a directory can be made where no file is in the way.
-/

namespace ProofRelay

/-! ### Paths above a path -/

namespace Path

variable {anchor : String} {ps : List String} {s : String} {q : Path}

/-- A path and the paths above it, the nearest first. -/
def upwards (p : Path) : List Path :=
  p :: p.parents

theorem parents_snoc (anchor : String) (ps : List String) (s : String) :
    parents ⟨anchor, ps ++ [s]⟩ = upwards ⟨anchor, ps⟩ := by
  have kept : ∀ n ∈ (List.range ps.length).reverse,
      (⟨anchor, (ps ++ [s]).take n⟩ : Path) = ⟨anchor, ps.take n⟩ := by
    intro n hn
    rw [List.mem_reverse, List.mem_range] at hn
    rw [List.take_append_of_le_length (Nat.le_of_lt hn)]
  simp only [parents, upwards, List.length_append, List.length_singleton, List.range_succ,
    List.reverse_append, List.reverse_singleton, List.singleton_append, List.map_cons,
    List.take_left]
  rw [List.map_congr_left kept]

theorem parent_snoc (anchor : String) (ps : List String) (s : String) :
    parent ⟨anchor, ps ++ [s]⟩ = ⟨anchor, ps⟩ := by
  rw [parent, List.dropLast_concat]

theorem mem_upwards_snoc :
    q ∈ upwards ⟨anchor, ps ++ [s]⟩ ↔ q = ⟨anchor, ps ++ [s]⟩ ∨ q ∈ upwards ⟨anchor, ps⟩ := by
  rw [upwards, List.mem_cons, parents_snoc]

/-- Whether the names of a path can be names of directories. -/
structure IsNameable (p : Path) : Prop where
  /-- No name has the character that none may have. -/
  whole : p.hasNull = false
  /-- The names are short enough, but for those that lead upwards. -/
  small : ∀ s ∈ p.parts, s ≠ ".." → s.utf8ByteSize ≤ FileTree.nameLimit

theorem IsNameable.of_snoc (h : IsNameable ⟨anchor, ps ++ [s]⟩) : IsNameable ⟨anchor, ps⟩ := by
  refine ⟨?_, fun r hr => h.small r (List.mem_append_left _ hr)⟩
  have whole := h.whole
  rw [hasNull, List.any_append, Bool.or_eq_false_iff] at whole
  exact whole.1

/-- A path is no longer than one with another name behind it. -/
theorem isShort_of_snoc (h : FileTree.isShort (toString ⟨anchor, ps ++ [s]⟩) = true) :
    FileTree.isShort (toString ⟨anchor, ps⟩) = true := by
  rw [toString, if_neg (by simp)] at h
  rw [FileTree.isShort, decide_eq_true_eq] at h ⊢
  rw [toString]
  split
  · decide
  · rcases List.eq_nil_or_concat ps with rfl | ⟨qs, r, rfl⟩
    · rw [String.utf8ByteSize_append] at h ⊢
      exact Nat.lt_of_le_of_lt (Nat.le_add_right ..) h
    · rw [String.intercalate_append_of_ne_nil (by simp) (by simp)] at h
      simp only [String.utf8ByteSize_append] at h ⊢
      omega

end Path

namespace FileTree

open ProofRelay.Path

variable {t : FileTree} {p : Path} {anchor : String} {ps : List String} {s : String}

/-! ### What is in the way -/

/-- Whether there is a file at a path or at a path above it. -/
def IsBlocked (t : FileTree) (p : Path) : Prop :=
  ∃ q ∈ p.upwards, (t.bytesAt (t.target q)).isSome = true

instance (t : FileTree) (p : Path) : Decidable (t.IsBlocked p) :=
  inferInstanceAs (Decidable (∃ q ∈ p.upwards, (t.bytesAt (t.target q)).isSome = true))

theorem not_isBlocked_snoc :
    ¬ t.IsBlocked ⟨anchor, ps ++ [s]⟩ ↔
      t.bytesAt (t.target ⟨anchor, ps ++ [s]⟩) = none ∧ ¬ t.IsBlocked ⟨anchor, ps⟩ := by
  simp only [IsBlocked, mem_upwards_snoc, or_and_right, exists_or, exists_eq_left, not_or,
    Option.not_isSome_iff_eq_none]

/-- Where nothing is in the way, there is no file at the end of it. -/
theorem bytesAt_of_clear (clear : ¬ t.IsBlocked p) : t.bytesAt (t.target p) = none := by
  rw [← Option.not_isSome_iff_eq_none]
  exact fun there => clear ⟨p, List.mem_cons_self, there⟩

theorem isBlocked_congr {t' : FileTree} (here : t'.here = t.here)
    (same : ∀ l, t'.bytesAt l = t.bytesAt l) (p : Path) : t'.IsBlocked p ↔ t.IsBlocked p := by
  simp only [IsBlocked, target_congr here, same]

/-! ### Walks -/

theorem walk_append (t : FileTree) (l : Location) (ps qs : List String) :
    t.walk l (ps ++ qs) = (t.walk l ps).bind (t.walk · qs) := by
  induction ps generalizing l with
  | nil => rfl
  | cons p ps ih =>
    rw [List.cons_append, walk, walk]
    split
    · rfl
    · rfl
    · split
      · exact ih _
      · split
        · rfl
        · exact ih _

/-- A single name behind a directory leads one step further. -/
theorem walk_singleton {l : Location} {mode : Nat} (there : t.find? l = some (.directory mode))
    (small : s ≠ ".." → s.utf8ByteSize ≤ nameLimit) : t.walk l [s] = .ok (step l s) := by
  rw [walk, there, step]
  dsimp only
  split
  · rfl
  · next other => rw [if_neg (Nat.not_lt.2 (small other)), walk]

/-- Where a walk goes on, there is a directory. -/
theorem exists_directory_of_walk {l m : Location} (h : t.walk l [s] = .ok m) :
    ∃ mode, t.find? l = some (.directory mode) := by
  rw [walk] at h
  split at h
  · cases h
  · cases h
  · next mode there => exact ⟨mode, there⟩

/-- A location without a file is empty, or a directory is there. -/
theorem find?_of_bytesAt_none {l : Location} (h : t.bytesAt l = none) :
    t.find? l = none ∨ ∃ mode, t.find? l = some (.directory mode) := by
  rw [bytesAt] at h
  split at h
  · cases h
  · next other =>
    rcases found : t.find? l with _ | ⟨bytes, mode⟩ | mode
    · exact .inl rfl
    · exact absurd found (other bytes mode)
    · exact .inr ⟨mode, rfl⟩

theorem locate_snoc (short : isShort (Path.toString ⟨anchor, ps ++ [s]⟩) = true) :
    t.locate ⟨anchor, ps ++ [s]⟩ = (t.locate ⟨anchor, ps⟩).bind (t.walk · [s]) := by
  rw [locate, if_pos short, locate, if_pos (isShort_of_snoc short), walk_append]
  rfl

/-- A path without a file on it leads to its location, or a directory on it is missing. -/
theorem locate_of_clear (short : isShort p.toString = true)
    (small : ∀ s ∈ p.parts, s ≠ ".." → s.utf8ByteSize ≤ nameLimit) (clear : ¬ t.IsBlocked p) :
    t.locate p = .error .absent ∨ t.locate p = .ok (t.target p) := by
  obtain ⟨anchor, ps⟩ := p
  induction ps using List.reverseRecOn with
  | nil =>
    rw [locate, if_pos short]
    exact .inr rfl
  | append_singleton ps s ih =>
    rw [not_isBlocked_snoc] at clear
    rw [locate_snoc short, target_append_singleton]
    rcases ih (isShort_of_snoc short) (fun r hr => small r (List.mem_append_left _ hr)) clear.2 with
      above | above
    · exact .inl (by rw [above]; rfl)
    · rw [above]
      rcases find?_of_bytesAt_none (bytesAt_of_clear clear.2) with missing | ⟨mode, there⟩
      · exact .inl (by rw [Except.bind, walk, missing])
      · exact .inr (walk_singleton there (small s (List.mem_append_right _ List.mem_cons_self)))

/-! ### Paths that lead to a directory -/

/-- Whether a path leads to a directory. -/
def IsOpen (t : FileTree) (p : Path) : Prop :=
  t.locate p = .ok (t.target p) ∧ ∃ mode, t.find? (t.target p) = some (.directory mode)

theorem isOpen_of_isDirectory (h : t.isDirectory p = true) : t.IsOpen p := by
  rw [isDirectory, Bool.and_eq_true, status] at h
  rcases located : t.locate p with e | l
  · simp [located] at h
  · cases target_of_locate located
    rcases found : t.find? (t.target p) with _ | ⟨bytes, mode⟩ | mode <;>
      simp [located, found, Entry.isDirectory] at h
    exact ⟨located, mode, found⟩

theorem IsOpen.isDirectory (h : t.IsOpen p) (whole : p.hasNull = false) :
    t.isDirectory p = true := by
  obtain ⟨located, mode, found⟩ := h
  rw [FileTree.isDirectory, status, located]
  simp [found, whole, Entry.isDirectory]

/-- A path that can be followed leads through directories. -/
theorem isOpen_of_locate_snoc {l : Location} (h : t.locate ⟨anchor, ps ++ [s]⟩ = .ok l) :
    t.IsOpen ⟨anchor, ps⟩ := by
  have short : isShort (Path.toString ⟨anchor, ps ++ [s]⟩) = true := by
    by_contra long
    rw [locate, if_neg long] at h
    cases h
  rw [locate_snoc short] at h
  rcases located : t.locate ⟨anchor, ps⟩ with e | m
  · rw [located] at h
    cases h
  · cases target_of_locate located
    rw [located] at h
    exact ⟨located, exists_directory_of_walk h⟩

theorem locate_of_isOpen (h : t.IsOpen ⟨anchor, ps⟩)
    (short : isShort (Path.toString ⟨anchor, ps ++ [s]⟩) = true)
    (small : s ≠ ".." → s.utf8ByteSize ≤ nameLimit) :
    t.locate ⟨anchor, ps ++ [s]⟩ = .ok (t.target ⟨anchor, ps ++ [s]⟩) := by
  obtain ⟨located, mode, found⟩ := h
  rw [locate_snoc short, located, target_append_singleton]
  exact walk_singleton found small

/-- There is no file on a path that leads to a directory. -/
theorem IsOpen.clear (h : t.IsOpen p) : ¬ t.IsBlocked p := by
  have free : ∀ {p}, t.IsOpen p → t.bytesAt (t.target p) = none := by
    rintro p ⟨-, mode, found⟩
    rw [bytesAt, found]
  obtain ⟨anchor, ps⟩ := p
  induction ps using List.reverseRecOn with
  | nil =>
    rintro ⟨q, hq, there⟩
    obtain rfl : q = ⟨anchor, []⟩ := List.mem_singleton.1 hq
    rw [free h] at there
    cases there
  | append_singleton ps s ih =>
    exact not_isBlocked_snoc.2 ⟨free h, ih (isOpen_of_locate_snoc h.1)⟩

/-! ### Making directories -/

theorem isOpen_of_makeDirectory {t' : FileTree} (h : t.makeDirectory p = .ok t') : t'.IsOpen p := by
  obtain ⟨located, empty, rfl⟩ := eq_of_makeDirectory h
  have apart : ∀ k mode, t.find? k = some (.directory mode) → t.target p ≠ k := by
    rintro k mode there rfl
    rw [empty] at there
    cases there
  have kept : ∀ k mode, t.find? k = some (.directory mode) →
      (t.put (t.target p) (.directory directoryMode)).find? k = some (.directory mode) := by
    intro k mode there
    rw [find?_put_of_ne _ _ (apart k mode there), there]
  exact ⟨locate_of_directories kept rfl located, directoryMode,
    find?_put_self t _ (apart [] _ t.find?_root)⟩

theorem isOpen_of_ensureDirectory {t' : FileTree} (h : t.ensureDirectory p = .ok t') :
    t'.IsOpen p := by
  rw [ensureDirectory] at h
  split at h
  · next made =>
    cases h
    exact isOpen_of_makeDirectory made
  · cases h
  · split at h
    · next there =>
      cases h
      exact isOpen_of_isDirectory there
    · cases h

theorem orSame_eq_none {t' : FileTree} {x : Except Fault FileTree} (h : t.orSame x = (t', none)) :
    x = .ok t' := by
  cases x with
  | ok t'' => cases h; rfl
  | error f => cases h

/-- A path at which a directory was made, with the missing ones above it, leads to it. -/
theorem isOpen_of_ensureDirectories {t' : FileTree} {depth : Nat}
    (h : t.ensureDirectories p depth = (t', none)) : t'.IsOpen p := by
  cases depth with
  | zero => exact isOpen_of_ensureDirectory (orSame_eq_none h)
  | succ depth =>
    rw [ensureDirectories] at h
    split at h
    · next made =>
      cases h
      exact isOpen_of_makeDirectory made
    · split at h
      · cases h
      · exact isOpen_of_ensureDirectory (orSame_eq_none h)
    · have ended := orSame_eq_none h
      split at ended
      · next there =>
        cases ended
        exact isOpen_of_isDirectory there
      · cases ended

/-- At a location without a file a directory is found, or one is made. -/
theorem exists_ensureDirectory (whole : p.hasNull = false) (located : t.locate p = .ok (t.target p))
    (free : t.bytesAt (t.target p) = none) : ∃ t', t.ensureDirectory p = .ok t' := by
  rcases find?_of_bytesAt_none free with empty | ⟨mode, there⟩
  · exact ⟨t.put (t.target p) (.directory directoryMode), by
      rw [ensureDirectory, makeDirectory, located]
      simp only [empty]⟩
  · have isThere : t.isDirectory p = true := IsOpen.isDirectory ⟨located, mode, there⟩ whole
    exact ⟨t, by
      rw [ensureDirectory, makeDirectory, located]
      simp only [there, isThere, if_true]⟩

/-- The directories above are left alone where the path leads to its location. -/
theorem ensureDirectories_of_located {l : Location} (located : t.locate p = .ok l) (depth : Nat) :
    t.ensureDirectories p depth = t.orSame (t.ensureDirectory p) := by
  cases depth with
  | zero => rfl
  | succ depth =>
    rw [ensureDirectories, ensureDirectory, makeDirectory, located]
    cases found : t.find? l with
    | none => simp only [found, orSame]
    | some e => simp only [found]

theorem exists_ensureDirectories_of_located (whole : p.hasNull = false)
    (located : t.locate p = .ok (t.target p)) (free : t.bytesAt (t.target p) = none) (depth : Nat) :
    ∃ t', t.ensureDirectories p depth = (t', none) := by
  obtain ⟨t', made⟩ := exists_ensureDirectory whole located free
  exact ⟨t', by rw [ensureDirectories_of_located located, made]; rfl⟩

end FileTree

theorem History.bytesAt_of_made {o o₁ : Outside} {ls : List Location}
    (h : History o (ls.map .made) o₁) (l : Location) : o₁.files.bytesAt l = o.files.bytesAt l := by
  refine h.bytesAt_eq fun d hd => ?_
  obtain ⟨k, -, rfl⟩ := List.mem_map.1 hd
  exact trivial

namespace FileTree

open ProofRelay.Path

variable {o : Outside} {p : Path}

/-- What blocks a path is the same after directories were made on the way. -/
theorem isBlocked_ensureDirectories (o : Outside) (p : Path) (depth : Nat) (q : Path) :
    (o.files.ensureDirectories p depth).1.IsBlocked q ↔ o.files.IsBlocked q := by
  obtain ⟨ls, made⟩ := History.of_ensureDirectories o p depth
  exact isBlocked_congr made.here_eq made.bytesAt_of_made q

/-- A directory is made below one that was made, where no file is in the way. -/
theorem exists_ensureDirectory_of_above {t₁ : FileTree} {anchor : String} {ps : List String}
    {s : String} {depth : Nat} (short : isShort (Path.toString ⟨anchor, ps ++ [s]⟩) = true)
    (named : IsNameable ⟨anchor, ps ++ [s]⟩) (clear : ¬ o.files.IsBlocked ⟨anchor, ps ++ [s]⟩)
    (made : o.files.ensureDirectories ⟨anchor, ps⟩ depth = (t₁, none)) :
    ∃ t₂, t₁.ensureDirectory ⟨anchor, ps ++ [s]⟩ = .ok t₂ := by
  have stays : ¬ t₁.IsBlocked ⟨anchor, ps ++ [s]⟩ := by
    rw [← isBlocked_ensureDirectories o ⟨anchor, ps⟩ depth, made] at clear
    exact clear
  have last := named.small s (List.mem_append_right _ List.mem_cons_self)
  exact exists_ensureDirectory named.whole
    (locate_of_isOpen (isOpen_of_ensureDirectories made) short last) (bytesAt_of_clear stays)

/-- A directory is made with the missing ones above it where no file is in the way. -/
theorem exists_ensureDirectories (short : isShort p.toString = true) (named : p.IsNameable)
    (clear : ¬ o.files.IsBlocked p) :
    ∃ t', o.files.ensureDirectories p p.parts.length = (t', none) := by
  obtain ⟨anchor, ps⟩ := p
  induction ps using List.reverseRecOn with
  | nil =>
    have located : o.files.locate ⟨anchor, []⟩ = .ok (o.files.target ⟨anchor, []⟩) := by
      rw [locate, if_pos short]
      rfl
    exact exists_ensureDirectories_of_located named.whole located (bytesAt_of_clear clear) _
  | append_singleton ps s ih =>
    rcases locate_of_clear short named.small clear with missing | located
    · -- A directory above is missing: with it in place, the path leads to its location.
      obtain ⟨t₁, made⟩ := ih (isShort_of_snoc short) named.of_snoc (not_isBlocked_snoc.1 clear).2
      obtain ⟨t₂, ended⟩ := exists_ensureDirectory_of_above short named clear made
      refine ⟨t₂, ?_⟩
      rw [List.length_append, List.length_singleton, ensureDirectories, parent_snoc,
        makeDirectory, missing]
      simp only [made, ended, orSame]
    · exact exists_ensureDirectories_of_located named.whole located (bytesAt_of_clear clear) _

/-- A directory can be made at a path that is short enough just if its names can be names of
directories and no file is in the way. -/
theorem makeDirectories_iff (short : isShort p.toString = true) :
    (o.files.makeDirectories p).2 = none ↔ p.IsNameable ∧ ¬ o.files.IsBlocked p := by
  constructor
  · intro made
    rw [makeDirectories] at made
    split at made
    · cases made
    · next whole =>
      have opened := isOpen_of_ensureDirectories (Prod.ext rfl made)
      have clear := opened.clear
      rw [isBlocked_ensureDirectories] at clear
      have walked := opened.1
      rw [locate, if_pos short] at walked
      exact ⟨⟨Bool.eq_false_iff.2 whole, utf8ByteSize_le_of_walk walked⟩, clear⟩
  · rintro ⟨named, clear⟩
    obtain ⟨t', made⟩ := exists_ensureDirectories short named clear
    rw [makeDirectories, if_neg (Bool.eq_false_iff.1 named.whole), made]

/-- A path at which a directory was made is short enough. -/
theorem isShort_of_makeDirectories {t : FileTree} (h : (t.makeDirectories p).2 = none) :
    isShort p.toString = true := by
  rw [makeDirectories] at h
  split at h
  · cases h
  · by_contra long
    have opened := isOpen_of_ensureDirectories (Prod.ext rfl h)
    have walked := opened.1
    rw [locate, if_neg long] at walked
    cases walked

/-- Where a directory was made, there is one. -/
theorem isDirectory_of_makeDirectories {t : FileTree} (h : (t.makeDirectories p).2 = none) :
    (t.makeDirectories p).1.isDirectory p = true := by
  rw [makeDirectories] at h ⊢
  split at h
  · cases h
  · next whole =>
    rw [if_neg whole]
    exact (isOpen_of_ensureDirectories (Prod.ext rfl h)).isDirectory (Bool.eq_false_iff.2 whole)

end FileTree

end ProofRelay
