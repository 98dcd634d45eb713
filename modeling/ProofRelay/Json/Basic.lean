import ProofRelay.Text.CodePoints

/-!
# JSON values

The values of a JSON document.  Whole numbers are kept apart from fractions, and the fields of
an object keep the order in which their names were first written.  A numbered escape may write
half of a surrogate pair alone; a text with such a half is kept as its code points.

## Main definitions

* `Json` : the values.
* `Json.put` : a field written into an object's fields.
* `Json.field?` : the value of a field.
* `Json.isFalsy`, `Json.given?` : the values that count as absent, and all others.
* `Json.ofPoints`, `Json.text?` : texts and code points.

## Main results

* `Json.get?_put` : what a lookup gives after a write.
-/

namespace ProofRelay

/-- A value of a JSON document. -/
inductive Json where
  /-- The value `null`. -/
  | null
  /-- A truth value. -/
  | bool (b : Bool)
  /-- A whole number. -/
  | int (n : Int)
  /-- A number with a fraction or an exponent, or one of the names `NaN` and `Infinity`. -/
  | float (x : Float)
  /-- A text. -/
  | str (s : String)
  /-- A text in which half of a surrogate pair stands alone, as its code points. -/
  | torn (points : List Nat)
  /-- A list of values. -/
  | arr (items : List Json)
  /-- Named values, in the order of the names. -/
  | obj (fields : List (String × Json))
  deriving Inhabited, Repr

namespace Json

open ProofRelay.Text

/-- The fields of an object. -/
abbrev Fields := List (String × Json)

/-- The value under a name. -/
def get? (key : String) : Fields → Option Json
  | [] => none
  | (k, v) :: fs => if k = key then some v else get? key fs

/-- Fields with a value written under a name: a new name comes last, a known one keeps its
place. -/
def put (key : String) (value : Json) : Fields → Fields
  | [] => [(key, value)]
  | (k, v) :: fs => if k = key then (k, value) :: fs else (k, v) :: put key value fs

/-- What a lookup gives after a write. -/
theorem get?_put (key other : String) (value : Json) (fs : Fields) :
    get? other (put key value fs) = if key = other then some value else get? other fs := by
  induction fs with
  | nil => simp [put, get?]
  | cons f fs ih =>
    obtain ⟨k, v⟩ := f
    by_cases hk : k = key
    · subst hk
      simp only [put, get?, ite_true]
      split <;> simp_all
    · by_cases ho : k = other
      · subst ho
        simp [put, get?, hk, Ne.symm hk]
      · simp [put, get?, hk, ho, ih]

/-- Fields built from a list of writes, of which a later one to the same name wins. -/
def ofWrites (writes : Fields) : Fields :=
  writes.foldl (fun fs w => put w.1 w.2 fs) []

/-- The fields of an object. -/
def fields? : Json → Option Fields
  | obj fs => some fs
  | _ => none

/-- The value of a field, if the value is an object that has it. -/
def field? (v : Json) (key : String) : Option Json :=
  v.fields?.bind (get? key)

/-- The text of code points. -/
def ofPoints (ps : List Nat) : Json :=
  if ps.any isHalf then torn ps else str (textOfPoints ps)

/-- The text of a value that is one, with a stand-in for every half. -/
def text? : Json → Option String
  | str s => some s
  | torn ps => some (textOfPoints ps)
  | _ => none

/-- The code points of a value that is a text. -/
def points? : Json → Option (List Nat)
  | str s => some (s.toList.map Char.toNat)
  | torn ps => some ps
  | _ => none

/-- The value of the code points of characters is their text. -/
theorem ofPoints_toNat (s : String) : ofPoints (s.toList.map Char.toNat) = str s := by
  have h : (s.toList.map Char.toNat).any isHalf = false := by
    simp [isHalf_toNat]
  rw [ofPoints, h, textOfPoints_toNat]
  rfl

/-- The values that count as absent: nothing, false, zero and what is empty. -/
def isFalsy : Json → Bool
  | null => true
  | bool b => !b
  | int n => n == 0
  | float x => x == 0
  | str s => s.isEmpty
  | torn ps => ps.isEmpty
  | arr xs => xs.isEmpty
  | obj fs => fs.isEmpty

/-- A value that does not count as absent. -/
def given? (v : Json) : Option Json :=
  if v.isFalsy then none else some v

/-- A value, or another one when it counts as absent. -/
def orElse (v other : Json) : Json :=
  v.given?.getD other

/-- The word for the kind of a value. -/
def kindName : Json → String
  | null => "NoneType"
  | bool _ => "bool"
  | int _ => "int"
  | float _ => "float"
  | str _ => "str"
  | torn _ => "str"
  | arr _ => "list"
  | obj _ => "dict"

/-- A text or nothing as a value. -/
def ofText? : Option String → Json
  | some s => str s
  | none => null

end Json

end ProofRelay
