import ProofRelay.Proofs.Files.Locations
import ProofRelay.Proofs.World.History

/-!
# What deeds do to the contents of files

The content of a file is read at its location.  A deed changes the content at a location only if it
writes or moves a file there; making a directory changes no content, since it is made where nothing
is.  What a run does with the operations on paths is told here as deeds on locations.

## Main definitions

* `FileTree.bytesAt` : the content of the file at a location.
* `Deed.Spares` : deeds that write and move no file at a location.

## Main results

* `FileTree.mem_or_find?_of_foldl_put` : where an entry comes from that is there after many were
  written.
* `History.bytesAt_eq` : a history that spares a location keeps its content.
* `History.of_makeDirectories`, `History.of_writeFile`, `History.of_renameFile` : the operations on
  paths as deeds.
* `FileTree.bytesAt_of_writeFile`, `FileTree.readBytes_of_renameFile`,
  `FileTree.find?_source_of_renameFile` : a written file is there, and a moved one is in its new
  place only.
-/

namespace ProofRelay

namespace FileTree

variable {t t' : FileTree} {l m : Location} {e : Entry}

/-! ### Entries after an operation -/

theorem find?_root (t : FileTree) : t.find? [] = some (.directory directoryMode) := if_pos rfl

theorem find?_put_self (t : FileTree) (e : Entry) (h : l ≠ []) : (t.put l e).find? l = some e := by
  rw [find?_put t e h, if_pos rfl]

theorem find?_put_of_ne (t : FileTree) (e : Entry) (h : l ≠ m) :
    (t.put l e).find? m = t.find? m := by
  by_cases hm : m = []
  · rw [hm, find?_root, find?_root]
  · rw [find?_put t e hm, if_neg h]

theorem look_filter (l m : Location) (es : List (Location × Entry)) :
    look m (es.filter fun p => p.1 ≠ l) = if l = m then none else look m es := by
  induction es with
  | nil => simp [look]
  | cons p es ih =>
    obtain ⟨k, d⟩ := p
    by_cases hk : k = l
    · subst hk
      rw [List.filter_cons_of_neg (by simp), ih, look]
      split <;> rfl
    · rw [List.filter_cons_of_pos (by simpa using hk), look, look, ih]
      by_cases hm : k = m
      · rw [if_pos hm, if_pos hm, if_neg (fun h => hk (hm.trans h.symm))]
      · rw [if_neg hm, if_neg hm]

theorem find?_erase (t : FileTree) (h : m ≠ []) :
    (t.erase l).find? m = if l = m then none else t.find? m := by
  rw [find?, if_neg h, erase, look_filter, find?, if_neg h]

theorem find?_erase_of_ne (t : FileTree) (h : l ≠ m) : (t.erase l).find? m = t.find? m := by
  by_cases hm : m = []
  · rw [hm, find?_root, find?_root]
  · rw [find?_erase t hm, if_neg h]

/-! ### Contents -/

/-- The content of the file at a location, if a file is there. -/
def bytesAt (t : FileTree) (l : Location) : Option (List UInt8) :=
  match t.find? l with
  | some (.file bytes _) => some bytes
  | _ => none

theorem bytesAt_congr (h : t'.find? l = t.find? l) : t'.bytesAt l = t.bytesAt l := by
  rw [bytesAt, bytesAt, h]

theorem bytesAt_of_find? {bytes : List UInt8} {mode : Nat}
    (h : t.find? l = some (.file bytes mode)) : t.bytesAt l = some bytes := by
  rw [bytesAt, h]

/-- A new directory has no content, as nothing had before it. -/
theorem bytesAt_put_directory (h : t.find? l = none) (k : Location) (mode : Nat) :
    (t.put l (.directory mode)).bytesAt k = t.bytesAt k := by
  by_cases hk : l = k
  · subst hk
    have proper : l ≠ [] := by
      rintro rfl
      rw [find?_root] at h
      cases h
    rw [bytesAt, bytesAt, h, find?_put_self t _ proper]
  · exact bytesAt_congr (find?_put_of_ne t _ hk)

theorem bytesAt_foldl_put {k : Location} (es : List (Location × Entry)) (t : FileTree)
    (h : ∀ e ∈ es, e.1 ≠ k) :
    (es.foldl (fun t e => t.put e.1 e.2) t).bytesAt k = t.bytesAt k := by
  induction es generalizing t with
  | nil => rfl
  | cons e es ih =>
    rw [List.foldl_cons, ih (t.put e.1 e.2) fun e he => h e (List.mem_cons_of_mem _ he)]
    exact bytesAt_congr (find?_put_of_ne t _ (h e List.mem_cons_self))

/-- An entry that is there after many were written is one of them, or was there before and none was
written in its place. -/
theorem mem_or_find?_of_foldl_put (es : List (Location × Entry)) (proper : l ≠ [])
    (h : (es.foldl (fun t e => t.put e.1 e.2) t).find? l = some e) :
    (l, e) ∈ es ∨ (∀ d ∈ es, d.1 ≠ l) ∧ t.find? l = some e := by
  induction es generalizing t with
  | nil => exact .inr ⟨by simp, h⟩
  | cons d es ih =>
    rcases ih h with later | ⟨spared, there⟩
    · exact .inl (List.mem_cons_of_mem d later)
    · by_cases same : d.1 = l
      · rw [← same, find?_put_self t _ (same ▸ proper)] at there
        obtain rfl := Option.some.inj there
        exact .inl (same ▸ List.mem_cons_self)
      · rw [find?_put_of_ne t _ same] at there
        exact .inr ⟨List.forall_mem_cons.mpr ⟨same, spared⟩, there⟩

end FileTree

/-- Whether a deed writes and moves no file at a location. -/
def Deed.Spares (k : Location) : Deed → Prop
  | call _ reply => ∀ e ∈ reply.writes, e.1 ≠ k
  | wrote l _ => l ≠ k
  | moved l m => l ≠ k ∧ m ≠ k
  | _ => True

theorem Deed.bytesAt_files {o : Outside} {d : Deed} {k : Location} (fits : d.Fits o)
    (h : d.Spares k) : (d.files o.files).bytesAt k = o.files.bytesAt k := by
  cases d with
  | call c reply => exact FileTree.bytesAt_foldl_put reply.writes o.files h
  | upload u reply => rfl
  | head reply => rfl
  | made l => exact FileTree.bytesAt_put_directory fits k _
  | wrote l bytes => exact FileTree.bytesAt_congr (FileTree.find?_put_of_ne _ _ h)
  | moved l m =>
    obtain ⟨⟨bytes, mode, hl⟩, -⟩ := fits
    change (o.files.moveEntry l m).bytesAt k = _
    rw [FileTree.moveEntry, hl]
    refine FileTree.bytesAt_congr ?_
    rw [FileTree.find?_put_of_ne _ _ h.2, FileTree.find?_erase_of_ne _ h.1]

/-- A history that spares a location keeps its content. -/
theorem History.bytesAt_eq {o o₁ : Outside} {ds : List Deed} {k : Location}
    (h : History o ds o₁) (spared : ∀ d ∈ ds, d.Spares k) :
    o₁.files.bytesAt k = o.files.bytesAt k :=
  h.keeps (P := fun o' => o'.files.bytesAt k = o.files.bytesAt k)
    (fun _ d hd fits ih => (Deed.bytesAt_files fits (spared d hd)).trans ih) rfl

/-! ### Files written and moved -/

namespace FileTree

variable {t t' : FileTree} {p q : Path}

theorem IsFree.ne_nil {l : Location} (free : t.IsFree l) : l ≠ [] := by
  rintro rfl
  exact free _ t.find?_root

/-- A tree after a directory was made: nothing was at the location of the path. -/
theorem eq_of_makeDirectory (h : t.makeDirectory p = .ok t') :
    t.locate p = .ok (t.target p) ∧ t.find? (t.target p) = none ∧
      t' = t.put (t.target p) (.directory directoryMode) := by
  rw [makeDirectory] at h
  split at h
  · cases h
  · next l located =>
    cases target_of_locate located
    split at h
    · cases h
    · next empty =>
      cases h
      exact ⟨located, empty, rfl⟩

/-- A tree after a file was written: no directory was in the way. -/
theorem eq_of_writeFile {bytes : List UInt8} (h : t.writeFile p bytes = .ok t') :
    t.IsFree (t.target p) ∧
      t' = t.put (t.target p) (.file bytes (t.modeAt (t.target p))) := by
  rw [writeFile] at h
  split at h
  · cases h
  · split at h
    · cases h
    · next l hl =>
      cases target_of_locate hl
      rw [modeAt]
      split at h
      · cases h
      · next b mode hf =>
        cases h
        refine ⟨fun m hm => ?_, by rw [hf]⟩
        rw [hf] at hm
        cases hm
      · next hf =>
        cases h
        refine ⟨fun m hm => ?_, by rw [hf]⟩
        rw [hf] at hm
        cases hm

/-- A tree after a file was moved: the moved entry, and the locations it came from and went to. -/
theorem exists_of_renameFile {bytes : List UInt8} (there : t.bytesAt (t.target p) = some bytes)
    (h : t.renameFile p q = .ok t') :
    ∃ mode, t.find? (t.target p) = some (.file bytes mode) ∧ t.locate q = .ok (t.target q) ∧
      t.IsFree (t.target q) ∧ t' = (t.erase (t.target p)).put (t.target q) (.file bytes mode) := by
  rw [bytesAt] at there
  split at there
  · next b mode hf =>
    cases there
    simp only [renameFile] at h
    split at h
    · cases h
    · cases h
    · next l m hl hm =>
      cases target_of_locate hl
      cases target_of_locate hm
      rw [hf] at h
      split at h
      · next absent => cases absent
      · cases h
      · next e same clash =>
        cases same
        cases h
        exact ⟨mode, hf, hm, fun _ hd => clash _ _ _ hd rfl, rfl⟩
  · cases there

end FileTree

/-! ### Operations on paths as deeds -/

namespace History

variable {o : Outside} {p q : Path} {t : FileTree}

theorem of_makeDirectory (h : o.files.makeDirectory p = .ok t) :
    ∃ l, History o [.made l] { o with files := t } := by
  obtain ⟨-, empty, rfl⟩ := FileTree.eq_of_makeDirectory h
  exact ⟨_, empty, rfl⟩

theorem of_ensureDirectory (o : Outside) (p : Path) :
    ∃ ls : List Location, History o (ls.map .made)
      { o with files := (o.files.orSame (o.files.ensureDirectory p)).1 } := by
  rw [FileTree.ensureDirectory]
  split
  · next t h =>
    obtain ⟨l, hl⟩ := of_makeDirectory h
    exact ⟨[l], hl⟩
  · exact ⟨[], rfl⟩
  · split <;> exact ⟨[], rfl⟩

/-- A directory with the missing ones above it is made by deeds that make one directory each. -/
theorem of_ensureDirectories (o : Outside) (p : Path) (depth : Nat) :
    ∃ ls : List Location, History o (ls.map .made)
      { o with files := (o.files.ensureDirectories p depth).1 } := by
  induction depth generalizing p with
  | zero => exact of_ensureDirectory o p
  | succ depth ih =>
    rw [FileTree.ensureDirectories]
    split
    · next t h =>
      obtain ⟨l, hl⟩ := of_makeDirectory h
      exact ⟨[l], hl⟩
    · obtain ⟨ls, hls⟩ := ih p.parent
      split
      · next t f hp =>
        rw [hp] at hls
        exact ⟨ls, hls⟩
      · next t hp =>
        rw [hp] at hls
        obtain ⟨ms, hms⟩ := of_ensureDirectory { o with files := t } p
        refine ⟨ls ++ ms, ?_⟩
        rw [List.map_append]
        exact hls.append hms
    · split <;> exact ⟨[], rfl⟩

theorem of_makeDirectories (o : Outside) (p : Path) :
    ∃ ls : List Location, History o (ls.map .made)
      { o with files := (o.files.makeDirectories p).1 } := by
  rw [FileTree.makeDirectories]
  split
  · exact ⟨[], rfl⟩
  · exact of_ensureDirectories o p _

/-- A file written at a path is one deed at its location. -/
theorem of_writeFile {bytes : List UInt8} (h : o.files.writeFile p bytes = .ok t) :
    History o [.wrote (o.files.target p) bytes] { o with files := t } := by
  obtain ⟨free, rfl⟩ := FileTree.eq_of_writeFile h
  exact ⟨free, rfl⟩

/-- A file moved over another path is one deed at their locations. -/
theorem of_renameFile {bytes : List UInt8}
    (there : o.files.bytesAt (o.files.target p) = some bytes)
    (h : o.files.renameFile p q = .ok t) :
    History o [.moved (o.files.target p) (o.files.target q)] { o with files := t } := by
  obtain ⟨mode, hf, -, free, rfl⟩ := FileTree.exists_of_renameFile there h
  refine ⟨⟨⟨bytes, mode, hf⟩, free⟩, ?_⟩
  simp only [History, Deed.apply, Deed.files, Deed.question, FileTree.moveEntry, hf,
    List.nil_append]

end History

/-! ### A file in its place -/

namespace FileTree

variable {t t' : FileTree} {p q : Path}

/-- What can be followed in a tree can be followed in one that has its directories too. -/
theorem walk_of_directories
    (kept : ∀ k mode, t.find? k = some (.directory mode) → t'.find? k = some (.directory mode))
    {l m : Location} {ps : List String} (h : t.walk l ps = .ok m) : t'.walk l ps = .ok m := by
  induction ps generalizing l with
  | nil => exact h
  | cons p ps ih =>
    rw [walk] at h ⊢
    split at h
    · cases h
    · cases h
    · next mode hd =>
      rw [kept l mode hd]
      dsimp only
      split at h
      · next hp => rw [if_pos hp]; exact ih h
      · next hp =>
        rw [if_neg hp]
        split at h
        · cases h
        · next short => rw [if_neg short]; exact ih h

theorem locate_of_directories
    (kept : ∀ k mode, t.find? k = some (.directory mode) → t'.find? k = some (.directory mode))
    (here : t'.here = t.here) {m : Location} (h : t.locate p = .ok m) : t'.locate p = .ok m := by
  rw [locate] at h ⊢
  split at h
  · next short =>
    rw [if_pos short, here]
    exact walk_of_directories kept h
  · cases h

/-- A file that was moved over another path is read there. -/
theorem readBytes_of_renameFile {bytes : List UInt8}
    (there : t.bytesAt (t.target p) = some bytes) (h : t.renameFile p q = .ok t') :
    t'.readBytes q = .ok bytes := by
  obtain ⟨mode, hf, hq, free, rfl⟩ := exists_of_renameFile there h
  have kept : ∀ k mode', t.find? k = some (.directory mode') →
      ((t.erase (t.target p)).put (t.target q) (.file bytes mode)).find? k =
        some (.directory mode') := by
    intro k mode' hk
    have away : t.target q ≠ k := by
      rintro rfl
      exact free _ hk
    have away' : t.target p ≠ k := by
      rintro rfl
      rw [hf] at hk
      cases hk
    rw [find?_put_of_ne _ _ away, find?_erase_of_ne _ away', hk]
  have located :
      ((t.erase (t.target p)).put (t.target q) (.file bytes mode)).locate q = .ok (t.target q) :=
    locate_of_directories kept rfl hq
  rw [readBytes, status, located]
  dsimp only
  rw [find?_put_self _ _ free.ne_nil]

/-- Nothing is left where a file was moved away. -/
theorem find?_source_of_renameFile {bytes : List UInt8}
    (there : t.bytesAt (t.target p) = some bytes) (h : t.renameFile p q = .ok t')
    (away : t.target p ≠ t.target q) : t'.find? (t.target p) = none := by
  obtain ⟨mode, hf, -, -, rfl⟩ := exists_of_renameFile there h
  have proper : t.target p ≠ [] := by
    intro hp
    rw [hp, find?_root] at hf
    cases hf
  rw [find?_put_of_ne _ _ (Ne.symm away), find?_erase t proper, if_pos rfl]

/-- A file that was written at a path is there. -/
theorem bytesAt_of_writeFile {bytes : List UInt8} (h : t.writeFile p bytes = .ok t') :
    t'.bytesAt (t.target p) = some bytes := by
  obtain ⟨free, rfl⟩ := eq_of_writeFile h
  exact bytesAt_of_find? (find?_put_self _ _ free.ne_nil)

/-- What is read at a path is the content at its location. -/
theorem bytesAt_of_readBytes {bytes : List UInt8} (h : t.readBytes p = .ok bytes) :
    t.bytesAt (t.target p) = some bytes := by
  rw [readBytes, status] at h
  cases located : t.locate p with
  | error e =>
    rw [located] at h
    cases h
  | ok l =>
    rw [← target_of_locate located]
    cases found : t.find? l with
    | none => simp [located, found, refused] at h
    | some e =>
      cases e with
      | directory mode => simp [located, found, refused] at h
      | file bytes' mode =>
        simp only [located, found] at h
        obtain rfl := Except.ok.inj h
        exact bytesAt_of_find? found

end FileTree

end ProofRelay
