import ProofRelay.Decimal.Digits

/-!
# Numbers as text

The three ways in which a number is shown: so that it reads back, with six significant digits,
and without decimal places.

## Main definitions

* `exact` : the shortest text that reads back, as in a JSON document.
* `brief` : at most six significant digits, as in a report of settings.
* `whole` : no decimal places, as in the delay of a log line.
-/

namespace ProofRelay.Decimal

/-- The texts of the numbers that have no digits. -/
structure SpecialTexts where
  /-- Not a number. -/
  nan : String
  /-- The infinity. -/
  infinity : String

/-- The texts in reports and log lines. -/
def SpecialTexts.plain : SpecialTexts := ⟨"nan", "inf"⟩

/-- The texts in JSON documents. -/
def SpecialTexts.document : SpecialTexts := ⟨"NaN", "Infinity"⟩

/-- A text with the sign of a number before it. -/
def signed (negative : Bool) (s : String) : String :=
  if negative then "-" ++ s else s

/-- Digits with an exponent of at least two digits. -/
def scientific (digits : List Char) (point : Int) : String :=
  let e := point - 1
  let mark := if e < 0 then "e-" else "e+"
  let size := toString e.natAbs
  let size := if size.length < 2 then "0" ++ size else size
  let fraction := if digits.length ≤ 1 then [] else '.' :: digits.drop 1
  String.ofList (digits.take 1 ++ fraction) ++ mark ++ size

/-- Digits around a point, without one when no digit follows it. -/
def positional (digits : List Char) (point : Int) : String :=
  if point ≤ 0 then
    String.ofList ('0' :: '.' :: (List.replicate point.natAbs '0' ++ digits))
  else
    let n := point.toNat
    if digits.length ≤ n then String.ofList (digits ++ List.replicate (n - digits.length) '0')
    else String.ofList (digits.take n ++ '.' :: digits.drop n)

/-- The shortest text that reads back: positional from `1e-4` up to but not including `1e16`,
and with a point or an exponent in any case. -/
def exactWith (t : SpecialTexts) (x : Float) : String :=
  match Binary64.ofFloat x with
  | .nan => t.nan
  | .infinite negative => signed negative t.infinity
  | .finite negative 0 _ => signed negative "0.0"
  | .finite negative m e =>
    let d := shortest m e
    let cs := d.chars
    let text :=
      if -4 < d.point ∧ d.point ≤ 16 then
        let s := positional cs d.point
        if (cs.length : Int) ≤ d.point then s ++ ".0" else s
      else scientific cs d.point
    signed negative text

/-- The shortest text that reads back, for reports and log lines. -/
def exact (x : Float) : String :=
  exactWith .plain x

/-- At most six significant digits, without zeros at the end: positional from `1e-4` up to but
not including `1e6`. -/
def brief (x : Float) : String :=
  match Binary64.ofFloat x with
  | .nan => "nan"
  | .infinite negative => signed negative "inf"
  | .finite negative 0 _ => signed negative "0"
  | .finite negative m e =>
    let (num, den) := ratio m e
    let d := significant 6 num den
    let cs := d.chars
    signed negative <|
      if -4 < d.point ∧ d.point ≤ 6 then positional cs d.point else scientific cs d.point

/-- The nearest integer, ties to the even one, with the sign of the number. -/
def whole (x : Float) : String :=
  match Binary64.ofFloat x with
  | .nan => "nan"
  | .infinite negative => signed negative "inf"
  | .finite negative m e =>
    let (num, den) := ratio m e
    signed negative (toString (roundDiv num den))

end ProofRelay.Decimal
