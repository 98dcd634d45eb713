import ProofRelay.Fault
import ProofRelay.Files.Path
import ProofRelay.Text.Utf8

/-!
# File trees

The files and directories that a run sees, as a table from locations to entries.  A location is
the list of names from the root.  There are no links, so that a double dot leads to the location
above.

## Main definitions

* `FileTree` : the files, directories and the working directory.
* `FileTree.locate` : the location of a path.
* `FileTree.write`, `FileTree.rename`, `FileTree.makeDirectories` : the operations of a run.
* `FileTree.readText` : the text of a file.

## Main results

* `FileTree.find?_put` : what is at a location after a write.
-/

namespace ProofRelay

open ProofRelay.Text

/-- The names from the root to an entry. -/
abbrev Location := List String

/-- A file or a directory, with its permission bits. -/
inductive Entry where
  /-- A file with its bytes. -/
  | file (bytes : List UInt8) (mode : Nat)
  /-- A directory. -/
  | directory (mode : Nat)
  deriving DecidableEq, Repr

/-- Whether an entry is a directory. -/
def Entry.isDirectory : Entry → Bool
  | .directory _ => true
  | .file .. => false

/-- Files, directories and a working directory. -/
structure FileTree where
  /-- What is where; the root is always a directory. -/
  entries : List (Location × Entry)
  /-- The working directory. -/
  here : Location
  deriving Repr

namespace FileTree

/-- The permission bits of a new file. -/
def fileMode : Nat := 0o644

/-- The permission bits of a new directory. -/
def directoryMode : Nat := 0o755

/-! ### Single entries -/

/-- The entry at a location in a table. -/
def look (l : Location) : List (Location × Entry) → Option Entry
  | [] => none
  | (k, e) :: es => if k = l then some e else look l es

/-- The entry at a location. -/
def find? (t : FileTree) (l : Location) : Option Entry :=
  if l = [] then some (.directory directoryMode) else look l t.entries

/-- A table with an entry written at a location. -/
def record (l : Location) (e : Entry) : List (Location × Entry) → List (Location × Entry)
  | [] => [(l, e)]
  | (k, d) :: es => if k = l then (k, e) :: es else (k, d) :: record l e es

/-- A tree with an entry at a location. -/
def put (t : FileTree) (l : Location) (e : Entry) : FileTree :=
  { t with entries := record l e t.entries }

/-- A tree without the entry at a location. -/
def erase (t : FileTree) (l : Location) : FileTree :=
  { t with entries := t.entries.filter fun p => p.1 ≠ l }

/-- A tree without the entries at and under a location. -/
def eraseAll (t : FileTree) (l : Location) : FileTree :=
  { t with entries := t.entries.filter fun p => !l.isPrefixOf p.1 }

/-- What is in a table after a write. -/
theorem look_record (l m : Location) (e : Entry) (es : List (Location × Entry)) :
    look m (record l e es) = if l = m then some e else look m es := by
  induction es with
  | nil => simp [record, look]
  | cons p es ih =>
    obtain ⟨k, d⟩ := p
    by_cases hk : k = l
    · subst hk
      simp only [record, look, ite_true]
      split <;> simp_all
    · by_cases hm : k = m
      · subst hm
        simp [record, look, hk, Ne.symm hk]
      · simp [record, look, hk, hm, ih]

/-- What is at a location other than the root after a write. -/
theorem find?_put (t : FileTree) {l m : Location} (e : Entry) (h : m ≠ []) :
    (t.put l e).find? m = if l = m then some e else t.find? m := by
  simp [find?, put, h, look_record]

/-! ### Paths -/

/-- The number of bytes that a name may have. -/
def nameLimit : Nat := 255

/-- The number of bytes that a path may not reach. -/
def pathLimit : Nat := 4096

/-- Whether a written path is short enough. -/
def isShort (text : String) : Bool :=
  text.utf8ByteSize < pathLimit

/-- The location that names lead to: all but the last have to lead to directories. -/
def walk (t : FileTree) (l : Location) : List String → Except FileProblem Location
  | [] => .ok l
  | p :: ps =>
    match t.find? l with
    | none => .error .absent
    | some (.file ..) => .error .notDirectory
    | some (.directory _) =>
      if p = ".." then walk t l.dropLast ps
      else if nameLimit < p.utf8ByteSize then .error .nameTooLong
      else walk t (l ++ [p]) ps

/-- The location of a path. -/
def locate (t : FileTree) (p : Path) : Except FileProblem Location :=
  if isShort p.toString then t.walk (if p.isAbsolute then [] else t.here) p.parts
  else .error .nameTooLong

/-- The entry at a path. -/
def status (t : FileTree) (p : Path) : Except FileProblem Entry :=
  match t.locate p with
  | .error e => .error e
  | .ok l =>
    match t.find? l with
    | some e => .ok e
    | none => .error .absent

/-- The entry at a path as it is written: an empty text leads nowhere, and a slash or a dot at the
end asks for a directory. -/
def statusOfText (t : FileTree) (text : String) : Except FileProblem Entry :=
  let last := (cutAt '/' text).getLast?.getD ""
  if text.isEmpty then .error .absent
  else if !isShort text then .error .nameTooLong
  else
    match t.status (.ofString text) with
    | .ok (.file bytes mode) =>
      if last = "" || last = "." then .error .notDirectory else .ok (.file bytes mode)
    | r => r

/-- Whether a path leads to a directory. -/
def isDirectory (t : FileTree) (p : Path) : Bool :=
  !p.hasNull &&
    match t.status p with
    | .ok e => e.isDirectory
    | .error _ => false

/-- Whether a path leads to a file. -/
def isFile (t : FileTree) (p : Path) : Bool :=
  !p.hasNull &&
    match t.status p with
    | .ok e => !e.isDirectory
    | .error _ => false

/-- Whether a path leads to a file that may be run. -/
def isRunnable (t : FileTree) (p : Path) : Bool :=
  match t.status p with
  | .ok (.file _ mode) => mode &&& 0o111 != 0
  | _ => false

/-- The absolute path of a location. -/
def pathOf (l : Location) : Path :=
  ⟨"/", l⟩

/-- The absolute path that a path leads to, as far as its names lead to entries. -/
def resolve (t : FileTree) (p : Path) : Path :=
  let step := fun (l : Location) (s : String) => if s = ".." then l.dropLast else l ++ [s]
  pathOf (p.parts.foldl step (if p.isAbsolute then [] else t.here))

/-! ### Operations -/

/-- A refusal at a path. -/
def refused {α : Type} (e : FileProblem) (p : Path) : Except Fault α :=
  .error (.file ⟨e, p.toString, none⟩)

/-- The fault of a path with the character that no name may have. -/
def nullFault : Fault :=
  .value "embedded null byte"

/-- The tree after a single operation, which changes nothing when it is refused. -/
def orSame (t : FileTree) : Except Fault FileTree → FileTree × Option Fault
  | .ok t => (t, none)
  | .error f => (t, some f)

/-- What is at a path, if anything.  A path or a name that is too long is the only obstacle that is
not taken for nothing being there. -/
def probe (t : FileTree) (p : Path) : Except Fault (Option Entry) :=
  if p.hasNull then .ok none
  else
    match t.status p with
    | .ok e => .ok (some e)
    | .error .nameTooLong => refused .nameTooLong p
    | .error _ => .ok none

/-- A new directory at a path. -/
def makeDirectory (t : FileTree) (p : Path) : Except FileProblem FileTree :=
  match t.locate p with
  | .error e => .error e
  | .ok l =>
    match t.find? l with
    | some _ => .error .exists
    | none => .ok (t.put l (.directory directoryMode))

/-- A directory at a path above which all directories are there; one that is there already is
left alone. -/
def ensureDirectory (t : FileTree) (p : Path) : Except Fault FileTree :=
  match t.makeDirectory p with
  | .ok t => .ok t
  | .error .absent => refused .absent p
  | .error e => if t.isDirectory p then .ok t else refused e p

/-- A directory at a path, with the missing ones above it; `depth` bounds the number of names
that are left.  The directories made before a refusal stay. -/
def ensureDirectories (t : FileTree) (p : Path) : Nat → FileTree × Option Fault
  | 0 => t.orSame (t.ensureDirectory p)
  | depth + 1 =>
    match t.makeDirectory p with
    | .ok t => (t, none)
    | .error .absent =>
      match ensureDirectories t p.parent depth with
      | (t, some f) => (t, some f)
      | (t, none) => t.orSame (t.ensureDirectory p)
    | .error e => t.orSame (if t.isDirectory p then .ok t else refused e p)

/-- A directory at a path, with the missing ones above it, as far as they can be made, and the
fault that ended it. -/
def makeDirectories (t : FileTree) (p : Path) : FileTree × Option Fault :=
  if p.hasNull then (t, some nullFault) else t.ensureDirectories p p.parts.length

/-- A tree with a file of given bytes at a path. -/
def writeFile (t : FileTree) (p : Path) (bytes : List UInt8) : Except Fault FileTree :=
  if p.hasNull then .error nullFault
  else
    match t.locate p with
    | .error e => refused e p
    | .ok l =>
      match t.find? l with
      | some (.directory _) => refused .isDirectory p
      | some (.file _ mode) => .ok (t.put l (.file bytes mode))
      | none => .ok (t.put l (.file bytes fileMode))

/-- A tree with a file moved to another path, over the file that is there. -/
def renameFile (t : FileTree) (p q : Path) : Except Fault FileTree :=
  let refused := fun e => Except.error (.file ⟨e, p.toString, some q.toString⟩)
  match t.locate p, t.locate q with
  | .error e, _ => refused e
  | .ok _, .error e => refused e
  | .ok l, .ok m =>
    match t.find? l, t.find? m with
    | none, _ => refused .absent
    | some (.file ..), some (.directory _) => refused .isDirectory
    | some e, _ => .ok ((t.erase l).put m e)

/-- The bytes of a file. -/
def readBytes (t : FileTree) (p : Path) : Except Fault (List UInt8) :=
  match t.status p with
  | .error e => refused e p
  | .ok (.directory _) => refused .isDirectory p
  | .ok (.file bytes _) => .ok bytes

/-- Text with every end of a line written as a line feed. -/
def plainLines : List Char → List Char
  | '\r' :: '\n' :: s => '\n' :: plainLines s
  | '\r' :: s => '\n' :: plainLines s
  | c :: s => c :: plainLines s
  | [] => []

/-- The text of a file, with every end of a line written as a line feed. -/
def readText (t : FileTree) (p : Path) : Except Fault String :=
  match t.readBytes p with
  | .error e => .error e
  | .ok bytes =>
    match Utf8.decode bytes with
    | .ok s => .ok (String.ofList (plainLines s))
    | .error e => .error (.defect .bytes e.message)

end FileTree

end ProofRelay
