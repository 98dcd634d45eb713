import ProofRelay.Text.Lines

/-!
# Paths

The path of a file as a list of names behind an anchor.  Empty names and single dots are dropped
when a path is read, double dots are kept: what they mean depends on the files.

## Main definitions

* `Path` : a path.
* `Path.ofString`, `Path.toString` : paths and texts.
* `Path.join` : a path taken relative to another.
* `Path.parent`, `Path.parents` : the directories above a path.
-/

namespace ProofRelay

open ProofRelay.Text

/-- A path: its anchor, which is empty for a relative one, and its names. -/
structure Path where
  /-- The slashes in front. -/
  anchor : String
  /-- The names, none of them empty or a single dot. -/
  parts : List String
  deriving DecidableEq, Repr, Inhabited

namespace Path

/-- The anchor of a text: two slashes in front are kept, three or more are one. -/
def anchorOf : List Char → String
  | '/' :: '/' :: '/' :: _ => "/"
  | '/' :: '/' :: _ => "//"
  | '/' :: _ => "/"
  | _ => ""

/-- The names of a text. -/
def partsOf (s : String) : List String :=
  (cutAt '/' s).filter fun p => p ≠ "" && p ≠ "."

/-- The path that a text writes. -/
def ofString (s : String) : Path :=
  ⟨anchorOf s.toList, partsOf s⟩

/-- A path as a text; the path without anchor and names is a dot. -/
def toString (p : Path) : String :=
  if p.anchor = "" ∧ p.parts = [] then "." else p.anchor ++ "/".intercalate p.parts

instance : ToString Path := ⟨Path.toString⟩

/-- Whether a path starts at the root. -/
def isAbsolute (p : Path) : Bool :=
  p.anchor ≠ ""

/-- A path taken relative to another: an absolute one stays as it is. -/
def append (p q : Path) : Path :=
  if q.isAbsolute then q else ⟨p.anchor, p.parts ++ q.parts⟩

instance : Append Path := ⟨Path.append⟩

/-- The path of a text taken relative to another path. -/
def join (p : Path) (s : String) : Path :=
  p ++ ofString s

/-- The last name of a path. -/
def name (p : Path) : String :=
  p.parts.getLast?.getD ""

/-- The path without its last name. -/
def parent (p : Path) : Path :=
  ⟨p.anchor, p.parts.dropLast⟩

/-- The paths above a path, the nearest first. -/
def parents (p : Path) : List Path :=
  (List.range p.parts.length).reverse.map fun n => ⟨p.anchor, p.parts.take n⟩

/-- The path with a text written behind its last name. -/
def extended (p : Path) (ending : String) : Path :=
  ⟨p.anchor, p.parts.dropLast ++ [p.name ++ ending]⟩

/-- Whether a path holds the character that no file name may have. -/
def hasNull (p : Path) : Bool :=
  p.parts.any fun s => s.toList.contains '\x00'

end Path

end ProofRelay
