/-!
# Binary floating-point numbers as integers

A `Float` taken apart into a sign, a significand and a power of two, and the `Float` nearest to
a quotient of natural numbers.  All text forms of a number are computed from these parts in
exact arithmetic.

## Main definitions

* `Binary64` : the parts of a number.
* `Binary64.ofFloat` : the parts of a `Float`.
* `roundDiv` : a quotient rounded to the nearest natural number, ties to the even one.
* `nearestFloat` : the `Float` nearest to a quotient, ties to the even significand.
* `truncate?` : the integer part of a finite number.
-/

namespace ProofRelay.Decimal

/-- The parts of a floating-point number; a finite one is `significand * 2 ^ exponent`. -/
inductive Binary64 where
  /-- Not a number. -/
  | nan
  /-- One of the infinities. -/
  | infinite (negative : Bool)
  /-- A finite number. -/
  | finite (negative : Bool) (significand : Nat) (exponent : Int)
  deriving DecidableEq, Repr

/-- The parts of the number that sixty-four bits write. -/
def Binary64.ofBits (bits : UInt64) : Binary64 :=
  let n := bits.toNat
  let negative := Nat.pow 2 63 ≤ n
  let fraction : Nat := n % Nat.pow 2 52
  let biased : Nat := n / Nat.pow 2 52 % 2048
  if biased = 2047 then
    if fraction = 0 then .infinite negative else .nan
  else if biased = 0 then .finite negative fraction (-1074)
  else .finite negative (fraction + Nat.pow 2 52) ((biased : Int) - 1075)

/-- The parts of a number. -/
def Binary64.ofFloat (x : Float) : Binary64 :=
  .ofBits x.toBits

/-- A quotient rounded to the nearest natural number; a tie goes to the even one. -/
def roundDiv (num den : Nat) : Nat :=
  let q := num / den
  let twice := 2 * (num % den)
  if twice < den then q
  else if den < twice then q + 1
  else if q % 2 = 0 then q else q + 1

/-- The quotient `num / (den * 2 ^ e)` as a numerator and a denominator. -/
def scaled (num den : Nat) : Int → Nat × Nat
  | .ofNat e => (num, den * Nat.pow 2 e)
  | .negSucc e => (num * Nat.pow 2 (e + 1), den)

/-- The bits of the number nearest to a positive quotient: the exponent is the one that leaves
fifty-three binary digits before the point, or the least one. -/
def nearestBits (num den : Nat) : Nat :=
  let e := (num.log2 : Int) - den.log2 - 52
  let (a, b) := scaled num den e
  let e := if a < b * Nat.pow 2 52 then e - 1 else e
  let e := max e (-1074)
  if 971 < e then 2047 * Nat.pow 2 52
  else
    let (a, b) := scaled num den e
    min ((e + 1074).toNat * Nat.pow 2 52 + roundDiv a b) (2047 * Nat.pow 2 52)

/-- The `Float` nearest to a quotient with a sign; a zero keeps its sign. -/
def nearestFloat (negative : Bool) (num den : Nat) : Float :=
  let sign := if negative then Nat.pow 2 63 else 0
  let bits := if num = 0 then 0 else nearestBits num den
  Float.ofBits (UInt64.ofNat (sign + bits))

/-- The `Float` nearest to an integer, unless that is an infinity. -/
def ofInt? (n : Int) : Option Float :=
  let x := nearestFloat (n < 0) n.natAbs 1
  if x.isInf then none else some x

/-- The magnitude of a finite number as a quotient. -/
def ratio (significand : Nat) : Int → Nat × Nat
  | .ofNat e => (significand * Nat.pow 2 e, 1)
  | .negSucc e => (significand, Nat.pow 2 (e + 1))

/-- The integer part of a finite number. -/
def truncate? (x : Float) : Option Int :=
  match Binary64.ofFloat x with
  | .finite negative m e =>
    let (num, den) := ratio m e
    let n : Int := (num / den : Nat)
    some (if negative then -n else n)
  | _ => none

end ProofRelay.Decimal
