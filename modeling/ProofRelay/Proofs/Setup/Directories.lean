import ProofRelay.Proofs.Files.Permissions
import ProofRelay.Proofs.Job.Identity

/-!
# What the check of a directory is worth

A run makes the directories of its files when it gets there.  The check of a setup makes none: it
looks at the path, and where no directory is, at the nearest of the paths above it at which
something is.  It asks there for access only, so that a file passes as well as a directory, and the
path itself may be a file.

That is all that is missing.  Where the check passes and no file is in the way, access is granted
to the directory that the new ones are made in, which is all the access that is asked for, and no
name can be refused but one that no directory could have.

## Main definitions

* `World.Grants` : paths at which a directory can be made and used.

## Main results

* `runIn_firstEntry` : the first path at which there is something.
* `grants_of_checkDirectory` : what the check of a directory is worth.
* `file_passes_checkDirectory` : a file passes.
-/

namespace ProofRelay

open Activity

/-! ### What is there -/

namespace FileTree

variable {t : FileTree} {p : Path} {e : Option Entry}

/-- Looking at a path finds what it leads to, unless the path holds the character that none may
have. -/
theorem eq_of_probe (h : t.probe p = .ok e) :
    e = if p.hasNull then none else (t.status p).toOption := by
  rw [probe] at h
  split at h
  · next null => rw [if_pos null, Except.ok.inj h]
  · next whole =>
    rw [if_neg whole]
    split at h
    · next found => rw [found, ← Except.ok.inj h]; rfl
    · cases h
    · next found => rw [found, ← Except.ok.inj h]; rfl

theorem holds_of_probe (h : t.probe p = .ok e) : t.holds p = e.isSome := by
  rw [eq_of_probe h, holds, isDirectory, isFile]
  cases p.hasNull <;> cases t.status p <;> simp [Except.toOption]

theorem isDirectory_of_probe (h : t.probe p = .ok e) :
    t.isDirectory p = e.any Entry.isDirectory := by
  rw [eq_of_probe h, isDirectory]
  cases p.hasNull <;> cases t.status p <;> simp [Except.toOption]

/-- A path at which something was looked for is short enough, or it holds the character that none
may have. -/
theorem isShort_of_probe (h : t.probe p = .ok e) (whole : p.hasNull = false) :
    isShort p.toString = true := by
  by_contra long
  have refused : t.status p = .error .nameTooLong := by rw [status, locate, if_neg long]
  rw [probe, whole, refused] at h
  cases h

end FileTree

/-! ### The check -/

variable {name : String} {p : Path} {w w₁ : World} {c : SetupCheck}

theorem SetupCheck.status_failure_ne (name detail : String) (hint : Option String) :
    (failure name detail hint).status ≠ "pass" :=
  (by decide : "fail" ≠ "pass")

theorem runIn_entryAt {e : Option Entry} (h : (entryAt p).runIn w = (.ok e, w₁)) :
    w₁ = w ∧ w.files.probe p = .ok e := by
  change (ofExcept (w.files.probe p)).runIn w = _ at h
  rw [runIn_ofExcept] at h
  obtain ⟨found, rfl⟩ := Prod.mk.inj h
  refine ⟨rfl, ?_⟩
  cases probed : w.files.probe p <;> rw [probed] at found <;> cases found
  rfl

/-- The first path at which there is something. -/
theorem runIn_firstEntry {ps : List Path} {r : Option Path}
    (h : (firstEntry ps).runIn w = (.ok r, w₁)) : w₁ = w ∧ r = ps.find? w.files.holds := by
  induction ps with
  | nil =>
    cases h
    exact ⟨rfl, rfl⟩
  | cons p ps ih =>
    rw [firstEntry] at h
    obtain ⟨e, _, looked, h⟩ := exists_of_runIn_bind_ok h
    obtain ⟨rfl, probed⟩ := runIn_entryAt looked
    rw [List.find?_cons, FileTree.holds_of_probe probed]
    cases e with
    | none => exact ih h
    | some e =>
      cases h
      exact ⟨rfl, rfl⟩

/-- A directory passes its check where access is granted to it, or to what is nearest above it. -/
theorem exists_granted_of_checkDirectory (checked : (checkDirectory name p).runIn w = (.ok c, w₁))
    (passed : c.status = "pass") :
    w₁ = w ∧ (∃ e, w.files.probe p = .ok e) ∧ ∃ q, mayAccess w q = true ∧
      if w.files.isDirectory p then q = p else p.parents.find? w.files.holds = some q := by
  rw [checkDirectory] at checked
  obtain ⟨e, _, looked, judged⟩ := exists_of_runIn_bind_ok checked
  obtain ⟨rfl, probed⟩ := runIn_entryAt looked
  rw [FileTree.isDirectory_of_probe probed]
  split at judged
  · obtain ⟨_, _, got, ended⟩ := exists_of_runIn_bind_ok judged
    cases got
    split at ended
    · next granted =>
      cases ended
      exact ⟨rfl, ⟨_, probed⟩, p, granted, rfl⟩
    · cases ended
      exact absurd passed (SetupCheck.status_failure_ne _ _ _)
  · next other =>
    have vacant : e.any Entry.isDirectory = false := by
      rcases e with _ | _ | mode
      · rfl
      · rfl
      · exact absurd rfl (other mode)
    obtain ⟨r, _, first, rest⟩ := exists_of_runIn_bind_ok judged
    obtain ⟨rfl, found⟩ := runIn_firstEntry first
    cases r with
    | none =>
      cases rest
      exact absurd passed (SetupCheck.status_failure_ne _ _ _)
    | some above =>
      obtain ⟨_, _, got, ended⟩ := exists_of_runIn_bind_ok rest
      cases got
      split at ended
      · next granted =>
        cases ended
        refine ⟨rfl, ⟨_, probed⟩, above, granted, ?_⟩
        rw [vacant]
        exact found.symm
      · cases ended
        exact absurd passed (SetupCheck.status_failure_ne _ _ _)

/-- Whether a directory can be made at a path and used. -/
structure World.Grants (w : World) (p : Path) : Prop where
  /-- It can be made, with the missing ones above it, or it is there. -/
  made : (w.makeDirectories p).2 = none
  /-- Access is granted to a directory that is there. -/
  access : w.files.isDirectory p = true → mayAccess w p = true

/-- Where a directory passed its check, one can be made if its names can be names of directories
and no file is at the path or above it, and then only.  The check itself changes nothing. -/
theorem grants_of_checkDirectory (checked : (checkDirectory name p).runIn w = (.ok c, w₁))
    (passed : c.status = "pass") :
    w₁ = w ∧ (w.Grants p ↔ p.IsNameable ∧ ¬ w.files.IsBlocked p) ∧
      (w.Grants p → (w.makeDirectories p).1.isDirectory p = true ∧
        ∃ q, w.files.nearest? p = some q ∧ mayAccess w q = true) := by
  obtain ⟨rfl, ⟨e, probed⟩, q, granted, nearest⟩ :=
    exists_granted_of_checkDirectory checked passed
  have plain := FileTree.makeDirectories_iff (o := w₁.outside) (p := p)
  -- What the check asked for access to is the nearest entry.
  have asked : ¬ w₁.files.IsBlocked p → w₁.files.nearest? p = some q := by
    intro clear
    split at nearest
    · next there =>
      rw [nearest]
      exact FileTree.nearest?_of_isDirectory there
    · next other =>
      rw [FileTree.nearest?, Path.upwards, List.find?_cons,
        FileTree.holds_eq_false clear (Bool.eq_false_iff.2 other)]
      exact nearest
  have possible : w₁.Grants p ↔ p.IsNameable ∧ ¬ w₁.files.IsBlocked p := by
    constructor
    · intro grants
      have made := (World.makeDirectories_iff.1 grants.made).1
      exact (plain (FileTree.isShort_of_makeDirectories made)).1 made
    · rintro ⟨named, clear⟩
      have made := (plain (FileTree.isShort_of_probe probed named.whole)).2 ⟨named, clear⟩
      refine ⟨World.makeDirectories_iff.2 ⟨made, fun _ q' found => ?_⟩, fun there => ?_⟩
      · rw [asked clear] at found
        exact Option.some.inj found ▸ granted
      · rw [if_pos there] at nearest
        exact nearest ▸ granted
  refine ⟨rfl, possible, fun grants => ⟨?_, q, asked (possible.1 grants).2, granted⟩⟩
  rw [World.makeDirectories, FileTree.eq_of_makeDirectoriesWhere grants.made]
  exact FileTree.isDirectory_of_makeDirectories (World.makeDirectories_iff.1 grants.made).1

/-- A directory that is missing, below another one that is, passes, and it can be made. -/
theorem grants_of_checkDirectory_sample :
    ∃ c, (checkDirectory "witness_dir" ⟨"/", ["run", "witnesses", "new"]⟩).runIn sampleWorld =
        (.ok c, sampleWorld) ∧ c.status = "pass" ∧
      sampleWorld.Grants ⟨"/", ["run", "witnesses", "new"]⟩ ∧
      (sampleWorld.makeDirectories ⟨"/", ["run", "witnesses", "new"]⟩).1.isDirectory
        ⟨"/", ["run", "witnesses", "new"]⟩ = true := by
  have checked : (checkDirectory "witness_dir" ⟨"/", ["run", "witnesses", "new"]⟩).runIn
      sampleWorld =
        (.ok (.pass "witness_dir" "will be created: /run/witnesses/new"), sampleWorld) := rfl
  obtain ⟨-, grants, made⟩ := grants_of_checkDirectory checked rfl
  have granted := grants.2 ⟨⟨by decide, by decide⟩, by decide⟩
  exact ⟨_, checked, rfl, granted, (made granted).1⟩

/-- A world with a file at the path of the witnesses. -/
def obstructedWorld : World :=
  { sampleWorld with
    files :=
      ⟨[(["run"], .directory FileTree.directoryMode),
        (["run", "witnesses"], .file [0x78] FileTree.fileMode)], ["run"]⟩ }

/-- A file at the path of a directory passes its check, although no directory can be made there. -/
theorem file_passes_checkDirectory :
    (checkDirectory "witness_dir" ⟨"/", ["run", "witnesses"]⟩).runIn obstructedWorld =
        (.ok (.pass "witness_dir" "will be created: /run/witnesses"), obstructedWorld) ∧
      (obstructedWorld.makeDirectories ⟨"/", ["run", "witnesses"]⟩).2 =
        some (.file ⟨.exists, "/run/witnesses", none⟩) :=
  ⟨rfl, rfl⟩

end ProofRelay
