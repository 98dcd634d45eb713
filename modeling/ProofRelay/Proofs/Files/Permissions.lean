import ProofRelay.Proofs.Files.Directories
import ProofRelay.Setup.Check

/-!
# Directories that may be made

A new directory is made in the directory above it, to which access must be granted.  Where a path
leads is asked before that, so that a directory that is there already needs no access to be found.
The directories that are made on the way belong to the one who made them, and access to these is
granted.

So access is asked for once: at the nearest directory that was there before.  Otherwise directories
are made, and refused, as if access were granted everywhere.

## Main definitions

* `FileTree.nearest?` : what is there at a path or above it, as near as possible.
* `FileTree.makeDirectoriesWhere` : directories with the missing ones above them, where it is told
  to which ones access is granted.
* `World.makeDirectories` : directories that are made where access is granted.

## Main results

* `FileTree.eq_of_ensureDirectoriesWhere` : the directories are those that are made without asking.
* `FileTree.ensureDirectoriesWhere_iff` : access is asked for at the nearest directory.
* `World.makeDirectories_iff` : when a directory can be made.
-/

namespace ProofRelay

namespace FileTree

open ProofRelay.Path

variable {t t' : FileTree} {p q : Path} {anchor : String} {ps : List String} {s : String}

/-! ### What is there -/

/-- Whether there is something at a path. -/
def holds (t : FileTree) (p : Path) : Bool :=
  t.isDirectory p || t.isFile p

/-- The nearest of a path and the paths above it at which there is something. -/
def nearest? (t : FileTree) (p : Path) : Option Path :=
  p.upwards.find? t.holds

/-- Where no file is in the way, what is there is a directory. -/
theorem isDirectory_of_holds (clear : ¬ t.IsBlocked p) (above : q ∈ p.upwards)
    (h : t.holds q = true) : t.isDirectory q = true := by
  rw [holds, Bool.or_eq_true] at h
  refine h.resolve_right fun file => clear ⟨q, above, ?_⟩
  obtain ⟨bytes, mode, found⟩ := exists_of_isFile file
  rw [bytesAt_of_find? found]
  rfl

theorem holds_eq_false (clear : ¬ t.IsBlocked p) (vacant : t.isDirectory p = false) :
    t.holds p = false := by
  refine Bool.eq_false_iff.2 fun there => ?_
  rw [isDirectory_of_holds clear List.mem_cons_self there] at vacant
  cases vacant

theorem nearest?_of_isDirectory (h : t.isDirectory p = true) : t.nearest? p = some p := by
  rw [nearest?, upwards, List.find?_cons_of_pos]
  rw [holds, h, Bool.true_or]

theorem nearest?_snoc (nothing : t.holds ⟨anchor, ps ++ [s]⟩ = false) :
    t.nearest? ⟨anchor, ps ++ [s]⟩ = t.nearest? ⟨anchor, ps⟩ := by
  rw [nearest?, upwards, List.find?_cons_of_neg (by rw [nothing]; exact Bool.false_ne_true),
    parents_snoc, nearest?]

/-! ### Making directories where access is granted -/

/-- A new directory at a path, if access is granted to the one above. -/
def makeDirectoryWhere (t : FileTree) (grants : Path → Bool) (p : Path) :
    Except FileProblem FileTree :=
  match t.makeDirectory p with
  | .ok t' => if grants p.parent then .ok t' else .error .denied
  | .error e => .error e

/-- A directory at a path above which all directories are there; one that is there already is
left alone. -/
def ensureDirectoryWhere (t : FileTree) (grants : Path → Bool) (p : Path) : Except Fault FileTree :=
  match t.makeDirectoryWhere grants p with
  | .ok t' => .ok t'
  | .error .absent => refused .absent p
  | .error e => if t.isDirectory p then .ok t else refused e p

/-- A directory at a path, with the missing ones above it; `depth` bounds the number of names
that are left. -/
def ensureDirectoriesWhere (t : FileTree) (grants : Path → Bool) (p : Path) :
    Nat → FileTree × Option Fault
  | 0 => t.orSame (t.ensureDirectoryWhere grants p)
  | depth + 1 =>
    match t.makeDirectoryWhere grants p with
    | .ok t' => (t', none)
    | .error .absent =>
      match ensureDirectoriesWhere t grants p.parent depth with
      | (t', some f) => (t', some f)
      | (t', none) => t'.orSame (t'.ensureDirectoryWhere grants p)
    | .error e => t.orSame (if t.isDirectory p then .ok t else refused e p)

/-- A directory at a path, with the missing ones above it, as far as access is granted. -/
def makeDirectoriesWhere (t : FileTree) (grants : Path → Bool) (p : Path) :
    FileTree × Option Fault :=
  if p.hasNull then (t, some nullFault) else t.ensureDirectoriesWhere grants p p.parts.length

variable {grants : Path → Bool}

theorem isDirectory_of_makeDirectory (h : t.makeDirectory p = .ok t') :
    t.isDirectory p = false := by
  obtain ⟨located, empty, -⟩ := eq_of_makeDirectory h
  rw [isDirectory, status, located]
  simp [empty]

theorem makeDirectoryWhere_of_error {e : FileProblem} (h : t.makeDirectory p = .error e) :
    t.makeDirectoryWhere grants p = .error e := by
  rw [makeDirectoryWhere, h]

theorem makeDirectoryWhere_of_granted (h : grants p.parent = true) :
    t.makeDirectoryWhere grants p = t.makeDirectory p := by
  rw [makeDirectoryWhere]
  cases t.makeDirectory p with
  | ok t' => exact if_pos h
  | error e => rfl

theorem makeDirectoryWhere_of_denied (h : t.makeDirectory p = .ok t')
    (denied : grants p.parent = false) : t.makeDirectoryWhere grants p = .error .denied := by
  rw [makeDirectoryWhere, h]
  exact if_neg (Bool.eq_false_iff.1 denied)

theorem ensureDirectoryWhere_of_granted (h : grants p.parent = true) :
    t.ensureDirectoryWhere grants p = t.ensureDirectory p := by
  rw [ensureDirectoryWhere, makeDirectoryWhere_of_granted h]
  rfl

/-- No access is asked for where no directory could be made. -/
theorem ensureDirectoryWhere_of_error {e : FileProblem} (h : t.makeDirectory p = .error e) :
    t.ensureDirectoryWhere grants p = t.ensureDirectory p := by
  rw [ensureDirectoryWhere, makeDirectoryWhere_of_error h, ← h]
  rfl

/-- A directory that could be made is refused without access to the one above. -/
theorem ensureDirectoryWhere_of_denied (h : t.makeDirectory p = .ok t')
    (denied : grants p.parent = false) : t.ensureDirectoryWhere grants p = refused .denied p := by
  rw [ensureDirectoryWhere, makeDirectoryWhere_of_denied h denied]
  exact if_neg (Bool.eq_false_iff.1 (isDirectory_of_makeDirectory h))

theorem eq_of_ensureDirectoryWhere (h : t.ensureDirectoryWhere grants p = .ok t') :
    t.ensureDirectory p = .ok t' := by
  cases made : t.makeDirectory p with
  | error e => rw [← h, ensureDirectoryWhere_of_error made]
  | ok t'' =>
    cases granted : grants p.parent with
    | true => rw [← h, ensureDirectoryWhere_of_granted granted]
    | false =>
      rw [ensureDirectoryWhere_of_denied made granted] at h
      cases h

/-- Directories that were made where access is granted are those that are made without asking. -/
theorem eq_of_ensureDirectoriesWhere {depth : Nat}
    (h : t.ensureDirectoriesWhere grants p depth = (t', none)) :
    t.ensureDirectories p depth = (t', none) := by
  induction depth generalizing p t' with
  | zero =>
    rw [ensureDirectories, eq_of_ensureDirectoryWhere (orSame_eq_none h)]
    rfl
  | succ depth ih =>
    rw [ensureDirectoriesWhere] at h
    cases made : t.makeDirectory p with
    | ok t'' =>
      cases granted : grants p.parent with
      | true =>
        rw [makeDirectoryWhere_of_granted granted, made] at h
        rw [ensureDirectories, made]
        exact h
      | false =>
        rw [makeDirectoryWhere_of_denied made granted] at h
        simp [isDirectory_of_makeDirectory made, refused, orSame] at h
    | error e =>
      rw [makeDirectoryWhere_of_error made] at h
      rw [ensureDirectories, made]
      cases e with
      | absent =>
        rcases above : t.ensureDirectoriesWhere grants p.parent depth with ⟨t₁, _ | f⟩
        · simp only [above] at h
          simp only [ih above, eq_of_ensureDirectoryWhere (orSame_eq_none h), orSame]
        · simp [above] at h
      | _ => exact h

/-- Access to the directory above is all that is asked for where the path leads to its location. -/
theorem ensureDirectoriesWhere_of_located {l : Location} (located : t.locate p = .ok l)
    (depth : Nat) :
    t.ensureDirectoriesWhere grants p depth = t.orSame (t.ensureDirectoryWhere grants p) := by
  cases depth with
  | zero => rfl
  | succ depth =>
    have reached : t.makeDirectoryWhere grants p ≠ .error .absent := by
      rw [makeDirectoryWhere, makeDirectory, located]
      cases found : t.find? l <;> cases granted : grants p.parent <;> simp [found]
    rw [ensureDirectoriesWhere, ensureDirectoryWhere]
    split
    · rfl
    · next missing => exact absurd missing reached
    · rfl

/-- At a location without a file a directory is found, or one is made with access to the one
above. -/
theorem exists_ensureDirectoryWhere_iff (whole : p.hasNull = false)
    (located : t.locate p = .ok (t.target p)) (free : t.bytesAt (t.target p) = none) :
    (∃ t', t.ensureDirectoryWhere grants p = .ok t') ↔
      (t.isDirectory p = false → grants p.parent = true) := by
  rcases find?_of_bytesAt_none free with empty | ⟨mode, there⟩
  · have made : t.makeDirectory p = .ok (t.put (t.target p) (.directory directoryMode)) := by
      rw [makeDirectory, located]
      simp only [empty]
    have vacant := isDirectory_of_makeDirectory made
    cases granted : grants p.parent with
    | true =>
      rw [ensureDirectoryWhere_of_granted granted]
      exact iff_of_true (exists_ensureDirectory whole located free) fun _ => rfl
    | false =>
      rw [ensureDirectoryWhere_of_denied made granted]
      exact iff_of_false (by rintro ⟨_, ⟨⟩⟩) fun h => Bool.false_ne_true (h vacant)
  · have isThere : t.isDirectory p = true := IsOpen.isDirectory ⟨located, mode, there⟩ whole
    have failed : t.makeDirectory p = .error .exists := by
      rw [makeDirectory, located]
      simp only [there]
    rw [ensureDirectoryWhere_of_error failed, isThere]
    exact iff_of_true (exists_ensureDirectory whole located free) (by rintro ⟨⟩)

theorem orSame_snd_eq_none_iff {x : Except Fault FileTree} :
    (t.orSame x).2 = none ↔ ∃ t', x = .ok t' := by
  cases x <;> simp [orSame]

variable {o : Outside}

/-- Where a directory above is missing and access is granted to it once it is made, the directories
above decide. -/
theorem ensureDirectoriesWhere_snoc_iff (short : isShort (Path.toString ⟨anchor, ps ++ [s]⟩) = true)
    (named : IsNameable ⟨anchor, ps ++ [s]⟩) (clear : ¬ o.files.IsBlocked ⟨anchor, ps ++ [s]⟩)
    (missing : o.files.locate ⟨anchor, ps ++ [s]⟩ = .error .absent)
    (granted : grants ⟨anchor, ps⟩ = true) (depth : Nat) :
    (o.files.ensureDirectoriesWhere grants ⟨anchor, ps ++ [s]⟩ (depth + 1)).2 = none ↔
      (o.files.ensureDirectoriesWhere grants ⟨anchor, ps⟩ depth).2 = none := by
  have absent : o.files.makeDirectory ⟨anchor, ps ++ [s]⟩ = .error .absent := by
    rw [makeDirectory, missing]
  rw [ensureDirectoriesWhere, parent_snoc, makeDirectoryWhere_of_error absent]
  rcases made : o.files.ensureDirectoriesWhere grants ⟨anchor, ps⟩ depth with ⟨t₁, _ | f⟩
  · obtain ⟨t₂, ended⟩ :=
      exists_ensureDirectory_of_above short named clear (eq_of_ensureDirectoriesWhere made)
    rw [← parent_snoc anchor ps s] at granted
    rw [← ensureDirectoryWhere_of_granted granted] at ended
    simp only [ended, orSame]
  · simp

/-- Where no file is in the way, access is asked for at the nearest directory that was there
before. -/
theorem ensureDirectoriesWhere_iff (fresh : ∀ q, o.files.isDirectory q = false → grants q = true)
    (short : isShort p.toString = true) (named : p.IsNameable) (clear : ¬ o.files.IsBlocked p) :
    (o.files.ensureDirectoriesWhere grants p p.parts.length).2 = none ↔
      (o.files.isDirectory p = false → ∀ q, o.files.nearest? p = some q → grants q = true) := by
  obtain ⟨anchor, ps⟩ := p
  induction ps using List.reverseRecOn with
  | nil =>
    have located : o.files.locate ⟨anchor, []⟩ = .ok (o.files.target ⟨anchor, []⟩) := by
      rw [locate, if_pos short]
      rfl
    rw [ensureDirectoriesWhere_of_located located, orSame_snd_eq_none_iff,
      exists_ensureDirectoryWhere_iff named.whole located (bytesAt_of_clear clear)]
    refine iff_of_true (fresh _) fun vacant q nearest => ?_
    rw [nearest?, upwards, List.find?_cons, holds_eq_false clear vacant] at nearest
    cases nearest
  | append_singleton ps s ih =>
    rcases locate_of_clear short named.small clear with missing | located
    · -- A directory above is missing, and so is the one right above: it will be a new one.
      have vacant : o.files.isDirectory ⟨anchor, ps ++ [s]⟩ = false := by
        rw [isDirectory, status, missing, Bool.and_false]
      have last := named.small s (List.mem_append_right _ List.mem_cons_self)
      have lower : o.files.isDirectory ⟨anchor, ps⟩ = false := by
        refine Bool.eq_false_iff.2 fun there => ?_
        rw [locate_of_isOpen (isOpen_of_isDirectory there) short last] at missing
        cases missing
      rw [List.length_append, List.length_singleton,
        ensureDirectoriesWhere_snoc_iff short named clear missing (fresh _ lower),
        ih (isShort_of_snoc short) named.of_snoc (not_isBlocked_snoc.1 clear).2,
        nearest?_snoc (holds_eq_false clear vacant), vacant, lower]
    · have lower := (isOpen_of_locate_snoc located).isDirectory named.of_snoc.whole
      rw [ensureDirectoriesWhere_of_located located, orSame_snd_eq_none_iff,
        exists_ensureDirectoryWhere_iff named.whole located (bytesAt_of_clear clear), parent_snoc]
      refine forall_congr' fun vacant => ?_
      rw [nearest?_snoc (holds_eq_false clear vacant), nearest?_of_isDirectory lower]
      simp

/-- Where directories were made as access is granted, the same are made without asking. -/
theorem eq_of_makeDirectoriesWhere (h : (t.makeDirectoriesWhere grants p).2 = none) :
    t.makeDirectoriesWhere grants p = t.makeDirectories p := by
  rw [makeDirectoriesWhere] at h ⊢
  split at h
  · cases h
  · next whole =>
    rcases made : t.ensureDirectoriesWhere grants p p.parts.length with ⟨t', r⟩
    rw [made] at h
    obtain rfl : r = none := h
    rw [if_neg whole, makeDirectories, if_neg whole, eq_of_ensureDirectoriesWhere made]

/-- A directory is made just where it can be made without asking, if access is granted to the
nearest directory that was there before. -/
theorem makeDirectoriesWhere_iff (fresh : ∀ q, o.files.isDirectory q = false → grants q = true) :
    (o.files.makeDirectoriesWhere grants p).2 = none ↔ (o.files.makeDirectories p).2 = none ∧
      (o.files.isDirectory p = false → ∀ q, o.files.nearest? p = some q → grants q = true) := by
  have asked : (o.files.makeDirectories p).2 = none →
      ((o.files.makeDirectoriesWhere grants p).2 = none ↔
        (o.files.isDirectory p = false → ∀ q, o.files.nearest? p = some q → grants q = true)) := by
    intro plain
    have short := isShort_of_makeDirectories plain
    obtain ⟨named, clear⟩ := (makeDirectories_iff short).1 plain
    rw [makeDirectoriesWhere, if_neg (Bool.eq_false_iff.1 named.whole)]
    exact ensureDirectoriesWhere_iff fresh short named clear
  constructor
  · intro h
    have plain : (o.files.makeDirectories p).2 = none := eq_of_makeDirectoriesWhere h ▸ h
    exact ⟨plain, (asked plain).1 h⟩
  · rintro ⟨plain, granted⟩
    exact (asked plain).2 granted

/-- Without access to the nearest directory, the uppermost of the missing ones is refused. -/
example : ((⟨[(["run"], .directory directoryMode)], []⟩ : FileTree).makeDirectoriesWhere
    (fun q => q.toString != "/run") ⟨"/", ["run", "new", "inner"]⟩).2 =
      some (.file ⟨.denied, "/run/new", none⟩) := by
  rfl

end FileTree

/-! ### Worlds -/

/-- A directory at a path, with the missing ones above it, as far as access is granted: to those
that were there before, as the world tells it, and to all new ones. -/
def World.makeDirectories (w : World) (p : Path) : FileTree × Option Fault :=
  w.files.makeDirectoriesWhere (fun q => !w.files.isDirectory q || mayAccess w q) p

variable {w : World} {p : Path}

/-- A directory can be made where the files allow for it, if it is there already or access is
granted to the nearest entry. -/
theorem World.makeDirectories_iff :
    (w.makeDirectories p).2 = none ↔ (w.files.makeDirectories p).2 = none ∧
      (w.files.isDirectory p = false → ∀ q, w.files.nearest? p = some q →
        mayAccess w q = true) := by
  have fresh : ∀ q, w.outside.files.isDirectory q = false →
      (!w.files.isDirectory q || mayAccess w q) = true := by
    intro q vacant
    rw [show w.files.isDirectory q = false from vacant]
    rfl
  have same := FileTree.makeDirectoriesWhere_iff (o := w.outside) (p := p) fresh
  refine same.trans (and_congr_right fun plain => ?_)
  have clear := ((FileTree.makeDirectories_iff (o := w.outside)
    (FileTree.isShort_of_makeDirectories plain)).1 plain).2
  refine forall_congr' fun _ => forall_congr' fun q => forall_congr' fun nearest => ?_
  have there : w.files.isDirectory q = true :=
    FileTree.isDirectory_of_holds clear (List.mem_of_find?_eq_some nearest)
      (List.find?_some nearest)
  rw [there]
  rfl

end ProofRelay
