import ProofRelay.Decimal.Binary64

/-!
# Decimal digits of a number

The digits that a positive number is written with: a fixed count of them, rounded, or the fewest
that read back as the same number.

## Main definitions

* `Digits` : decimal digits with the place of the point.
* `magnitude` : the place of the point of a quotient.
* `shortest` : the fewest digits that read back.
* `significant` : a fixed count of digits.
-/

namespace ProofRelay.Decimal

/-- A positive decimal number `0.d₁d₂… * 10 ^ point`, its digits as one natural number. -/
structure Digits where
  /-- The digits, read as a natural number. -/
  value : Nat
  /-- The place of the point, counted from the first digit. -/
  point : Int
  deriving DecidableEq, Repr

/-- The digits as characters, the last of them not a zero. -/
def Digits.chars (d : Digits) : List Char :=
  ((Nat.toDigits 10 d.value).reverse.dropWhile (· == '0')).reverse

/-- The place of the point of a quotient `num / den` found by going up from a lower bound, with
a bound on the steps: the least `p` with `num / den < 10 ^ p`. -/
def climb (num den : Nat) : Nat → Int → Int
  | 0, p => p
  | steps + 1, p =>
    let below : Bool :=
      match p with
      | .ofNat k => num < den * Nat.pow 10 k
      | .negSucc k => num * Nat.pow 10 (k + 1) < den
    if below then p else climb num den steps (p + 1)

/-- The least `p` with `num / den < 10 ^ p` for a positive quotient.  The binary logarithms give
a lower bound that is at most three too low. -/
def magnitude (num den : Nat) : Int :=
  let binary := (num.log2 : Int) - den.log2 - 1
  climb num den 5 (Int.fdiv (binary * 30102) 100000 - 1)

/-- The quotient `num / den` in units of `10 ^ e`. -/
def inUnits (num den : Nat) : Int → Nat × Nat
  | .ofNat e => (num, den * Nat.pow 10 e)
  | .negSucc e => (num * Nat.pow 10 (e + 1), den)

/-- Digits for a quotient rounded to a fixed count of them, ties to the even digit. -/
def significant (count num den : Nat) : Digits :=
  let p := magnitude num den
  let (a, b) := inUnits num den (p - count)
  let n := roundDiv a b
  if n = Nat.pow 10 count then ⟨Nat.pow 10 (count - 1), p + 1⟩ else ⟨n, p⟩

/-- The interval of the numbers that round to `significand * 2 ^ exponent`: its ends in units of
`2 ^ (exponent - 2)`, and whether they belong to it. -/
structure Cell where
  /-- The lower end. -/
  low : Nat
  /-- The number itself. -/
  mid : Nat
  /-- The upper end. -/
  high : Nat
  /-- Whether the ends round to the number as well. -/
  closed : Bool

/-- The interval around a number; below a power of two the next number is only half as far. -/
def Cell.of (significand : Nat) (exponent : Int) : Cell :=
  let narrow := significand = Nat.pow 2 52 ∧ -1074 < exponent
  ⟨4 * significand - (if narrow then 1 else 2), 4 * significand, 4 * significand + 2,
    significand % 2 = 0⟩

/-- The digits of a count that read back, if there are any: of the two neighbours of the number
on the grid of that many digits the nearer one inside the interval. -/
def withCount? (c : Cell) (exponent : Int) (p : Int) (count : Nat) : Option Digits :=
  let (num, den) := ratio 1 (exponent - 2)
  let unit := p - count
  let (a, b) := inUnits (c.mid * num) den unit
  let (lowNum, _) := inUnits (c.low * num) den unit
  let (highNum, _) := inUnits (c.high * num) den unit
  let inside := fun n : Nat =>
    let x := n * b
    if c.closed then lowNum ≤ x && x ≤ highNum else lowNum < x && x < highNum
  let below := a / b
  let above := below + 1
  match inside below, inside above with
  | false, false => none
  | true, false => some ⟨below, p⟩
  | false, true => some (grown above)
  | true, true =>
    let r := 2 * (a % b)
    if r < b then some ⟨below, p⟩
    else if b < r then some (grown above)
    else if below % 2 = 0 then some ⟨below, p⟩ else some (grown above)
where
  /-- The upper neighbour, which may have one digit more. -/
  grown (n : Nat) : Digits :=
    if n = Nat.pow 10 count then ⟨n, p + 1⟩ else ⟨n, p⟩

/-- The fewest digits that read back as a positive number.  Seventeen always do, so that the
last case is not reached. -/
def shortest (significand : Nat) (exponent : Int) : Digits :=
  let (num, den) := ratio significand exponent
  let p := magnitude num den
  let c := Cell.of significand exponent
  match (List.range 17).findSome? fun k => withCount? c exponent p (k + 1) with
  | some d => d
  | none => significant 17 num den

end ProofRelay.Decimal
