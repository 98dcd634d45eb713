import ProofRelay.Decimal.Binary64
import ProofRelay.Json.Basic

/-!
# Comparing values

Equality and order of the values of a document.  Truth values count as the numbers zero and one,
and whole numbers are compared with fractions exactly.  Texts are ordered by code points and
lists by their first difference; other pairs have no order.

## Main definitions

* `Json.same` : equality.
* `Json.less` : order, where there is one.
* `Json.sorted` : a list in ascending order.

## Main results

* `Json.same_str` : texts are equal as such.
-/

namespace ProofRelay.Json

open ProofRelay.Decimal

/-- A number as a value of the extended number line; not a number has none. -/
inductive Magnitude where
  /-- The negative infinity. -/
  | bottom
  /-- The quotient of an integer and a positive number. -/
  | quotient (num : Int) (den : Nat)
  /-- The positive infinity. -/
  | top
  deriving DecidableEq, Repr

/-- Where a number stands on the number line. -/
def magnitude? (x : Float) : Option Magnitude :=
  match Binary64.ofFloat x with
  | .nan => none
  | .infinite negative => some (if negative then .bottom else .top)
  | .finite negative m e =>
    let (num, den) := ratio m e
    some (.quotient (if negative then -(num : Int) else num) den)

/-- The values that are numbers, `some none` for the one that is no number. -/
def number? : Json → Option (Option Magnitude)
  | bool b => some (some (.quotient (if b then 1 else 0) 1))
  | int n => some (some (.quotient n 1))
  | float x => some (magnitude? x)
  | _ => none

/-- Whether two numbers are equal. -/
def Magnitude.same : Magnitude → Magnitude → Bool
  | .bottom, .bottom => true
  | .top, .top => true
  | .quotient a b, .quotient c d => a * d == c * b
  | _, _ => false

/-- Whether a number is less than another. -/
def Magnitude.less : Magnitude → Magnitude → Bool
  | .bottom, .bottom => false
  | .bottom, _ => true
  | .quotient a b, .quotient c d => a * d < c * b
  | .quotient _ _, .top => true
  | _, _ => false

mutual

/-- Whether two values are equal, where `nested` says that they are items of equal lists: there
the value that is no number equals itself. -/
def sameAt (nested : Bool) (v w : Json) : Bool :=
  match v, w with
  | null, null => true
  | str s, str t => s == t
  | torn ps, torn qs => ps == qs
  | arr xs, arr ys => sameItems xs ys
  | obj fs, obj gs => fs.length == gs.length && sameFields fs gs
  | v, w =>
    match number? v, number? w with
    | some (some a), some (some b) => a.same b
    | some none, some none => nested
    | _, _ => false

/-- Whether two lists have equal items. -/
def sameItems : List Json → List Json → Bool
  | [], [] => true
  | x :: xs, y :: ys => sameAt true x y && sameItems xs ys
  | _, _ => false

/-- Whether all fields have an equal one of the same name. -/
def sameFields : List (String × Json) → List (String × Json) → Bool
  | [], _ => true
  | (k, v) :: fs, gs =>
    (match get? k gs with
      | some w => sameAt true v w
      | none => false) && sameFields fs gs

end

/-- Whether two values are equal. -/
def same (v w : Json) : Bool :=
  sameAt false v w

/-- Texts are equal as such. -/
@[simp] theorem same_str (s t : String) : (str s).same (str t) = (s == t) := by
  simp [same, sameAt]

/-- Two kinds of values that have no order. -/
structure Incomparable where
  /-- The kind of the first value. -/
  left : String
  /-- The kind of the second value. -/
  right : String
  deriving DecidableEq, Repr

/-- The report of values without an order. -/
def Incomparable.report (e : Incomparable) : String :=
  "'<' not supported between instances of '" ++ e.left ++ "' and '" ++ e.right ++ "'"

mutual

/-- Whether a value is less than another. -/
def less (v w : Json) : Except Incomparable Bool :=
  match v, w with
  | str s, str t => .ok (s < t)
  | arr xs, arr ys => lessItems xs ys
  | v, w =>
    match v.points?, w.points?, number? v, number? w with
    | some ps, some qs, _, _ => .ok (ps < qs)
    | _, _, some (some a), some (some b) => .ok (a.less b)
    | _, _, some _, some _ => .ok false
    | _, _, _, _ => .error ⟨v.kindName, w.kindName⟩

/-- Whether a list is less than another: the first items that differ decide. -/
def lessItems : List Json → List Json → Except Incomparable Bool
  | [], ys => .ok (!ys.isEmpty)
  | _ :: _, [] => .ok false
  | x :: xs, y :: ys => if sameAt true x y then lessItems xs ys else less x y

end

/-! ### Sorting -/

/-- The length of the run that continues after an item, each next item less than the one before
(`down`) or none of them. -/
def runLength (down : Bool) (last : Json) : List Json → Except Incomparable Nat
  | [] => .ok 0
  | x :: xs => do
    if (← less x last) == down then return (← runLength down x xs) + 1
    else return 0

/-- The place of an item in a sorted list, by halving the part between `low` and `high`, with a
bound on the steps. -/
def insertionPoint (items : List Json) (x : Json) :
    Nat → Nat → Nat → Except Incomparable Nat
  | 0, low, _ => .ok low
  | steps + 1, low, high =>
    if high ≤ low then .ok low
    else do
      let middle := low + (high - low) / 2
      match items[middle]? with
      | none => return low
      | some y =>
        if ← less x y then insertionPoint items x steps low middle
        else insertionPoint items x steps (middle + 1) high

/-- Items inserted one after the other into a sorted list. -/
def insertAll (sorted : List Json) : List Json → Except Incomparable (List Json)
  | [] => .ok sorted
  | x :: xs => do
    let i ← insertionPoint sorted x (sorted.length + 1) 0 sorted.length
    insertAll (sorted.take i ++ x :: sorted.drop i) xs

/-- A list in ascending order: its first run, turned around when it descends, and the other
items inserted.  Which pairs are compared decides which of several missing orders is reported. -/
def sorted : List Json → Except Incomparable (List Json)
  | x :: y :: rest => do
    let down ← less y x
    let n ← runLength down y rest
    let run := x :: y :: rest.take n
    insertAll (if down then run.reverse else run) (rest.drop n)
  | items => .ok items

end ProofRelay.Json
