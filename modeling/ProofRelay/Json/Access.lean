import ProofRelay.Fault
import ProofRelay.Json.Basic
import ProofRelay.Text.Quoted

/-!
# Taking values apart

The fields and items of a value of unknown shape.  A value of another shape is a defect that
names its kind; text counts as the list of its characters, and an object as the list of its
names.

## Main definitions

* `Json.index` : the value of a field that has to be there.
* `Json.itemsOf` : the items of a value.
* `Json.holds` : whether a name, item or part is in a value.
* `Json.pathText` : the text of a value that has to name a file.
-/

namespace ProofRelay.Json

open ProofRelay.Text

/-- A value of the wrong kind. -/
def mismatch {α : Type} (message : String) : Except Fault α :=
  .error (.defect .mismatch message)

/-- The value of a field that has to be there. -/
def index (v : Json) (key : String) : Except Fault Json :=
  match v with
  | obj fs =>
    match get? key fs with
    | some w => .ok w
    | none => .error (.defect .lookup (quoted key))
  | arr _ => mismatch "list indices must be integers or slices, not str"
  | str _ | torn _ => mismatch "string indices must be integers, not 'str'"
  | v => mismatch ("'" ++ v.kindName ++ "' object is not subscriptable")

/-- The items of a value. -/
def itemsOf (v : Json) : Except Fault (List Json) :=
  match v with
  | arr xs => .ok xs
  | str s => .ok (s.toList.map fun c => str (String.singleton c))
  | torn ps => .ok (ps.map fun n => ofPoints [n])
  | obj fs => .ok (fs.map fun f => str f.1)
  | v => mismatch ("'" ++ v.kindName ++ "' object is not iterable")

/-- Whether a list has another as a part. -/
def hasPart {α : Type} [BEq α] (part : List α) : List α → Bool
  | [] => part.isEmpty
  | c :: s => part.isPrefixOf (c :: s) || hasPart part s

/-- Whether a name, item or part is in a value. -/
def holds (v : Json) (key : String) : Except Fault Bool :=
  match v with
  | obj fs => .ok (get? key fs).isSome
  | arr xs =>
    .ok (xs.any fun
      | str s => s == key
      | _ => false)
  | str s => .ok (hasPart key.toList s.toList)
  | torn ps => .ok (hasPart (key.toList.map Char.toNat) ps)
  | v => mismatch ("argument of type '" ++ v.kindName ++ "' is not iterable")

/-- The fault of a value without the operation asked of it. -/
def lacks {α : Type} (v : Json) (operation : String) : Except Fault α :=
  .error (.defect .operation
    ("'" ++ v.kindName ++ "' object has no attribute '" ++ operation ++ "'"))

/-- The value of a field that may be missing; the value asked has to be an object. -/
def fieldOf? (v : Json) (key : String) : Except Fault (Option Json) :=
  match v with
  | obj fs => .ok (get? key fs)
  | v => v.lacks "get"

/-- The text of a value that has to name a file. -/
def pathText (v : Json) : Except Fault String :=
  match v.text? with
  | some s => .ok s
  | none => mismatch ("expected str, bytes or os.PathLike object, not " ++ v.kindName)

end ProofRelay.Json
