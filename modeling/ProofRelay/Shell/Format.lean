import ProofRelay.Decimal.Reading
import ProofRelay.Decimal.Text
import ProofRelay.Shell.Arithmetic
import ProofRelay.Text.Utf8

/-!
# Formatted output of a script

Texts with escapes, and formats with arguments.  The outcome is a list of bytes, since an escape
can name any byte.

## Main definitions

* `escapedText` : the bytes of a text with escapes.
* `formatted` : what a format prints with arguments.
-/

namespace ProofRelay.Shell

open ProofRelay.Text ProofRelay.Decimal

/-- The number that up to `n` octal digits at the start of a text write, and the rest. -/
def octal : Nat → Nat → List Char → Nat × List Char
  | n + 1, v, c :: s =>
    if '0' ≤ c ∧ c ≤ '7' then octal n (8 * v + (c.toNat - 48)) s else (v, c :: s)
  | _, v, s => (v, s)

/-- The byte that the text behind a backslash writes, and the rest; otherwise the backslash
stands for itself. -/
def escapeByte (s : List Char) : UInt8 × List Char :=
  match s with
  | '\\' :: t => (92, t)
  | 'a' :: t => (7, t)
  | 'b' :: t => (8, t)
  | 'f' :: t => (12, t)
  | 'n' :: t => (10, t)
  | 'r' :: t => (13, t)
  | 't' :: t => (9, t)
  | 'v' :: t => (11, t)
  | c :: _ =>
    if '0' ≤ c ∧ c ≤ '7' then
      let (v, rest) := octal 3 0 s
      (v.toUInt8, rest)
    else (92, s)
  | [] => (92, s)

/-- The bytes of a text with escapes, and whether an escape ends all output; the count bounds the
number of characters. -/
def escapedWithin : Nat → List Char → List UInt8 × Bool
  | 0, _ => ([], false)
  | _, [] => ([], false)
  | n + 1, '\\' :: s =>
    match s with
    | 'c' :: _ => ([], true)
    | '0' :: t =>
      let (v, rest) := octal 3 0 t
      let (bytes, ended) := escapedWithin n rest
      (v.toUInt8 :: bytes, ended)
    | s =>
      let (b, rest) := escapeByte s
      let (bytes, ended) := escapedWithin n rest
      (b :: bytes, ended)
  | n + 1, c :: s =>
    let (bytes, ended) := escapedWithin n s
    (Utf8.encodeChar c ++ bytes, ended)

/-- The bytes of a text with escapes, and whether an escape ends all output. -/
def escapedText (s : List Char) : List UInt8 × Bool :=
  escapedWithin (s.length + 1) s

/-! ### Formats -/

/-- A conversion of a format. -/
structure Conversion where
  /-- The marks before the width. -/
  marks : List Char
  /-- The least number of bytes; an asterisk takes it from the arguments. -/
  width : List Char
  /-- The precision; an asterisk takes it from the arguments. -/
  precision : Option (List Char)
  /-- The letter. -/
  letter : Char

/-- A part of a format. -/
inductive FormatItem where
  /-- Bytes as they stand. -/
  | bytes (bs : List UInt8)
  /-- A conversion of an argument. -/
  | convert (c : Conversion)
  /-- A percent sign behind which no conversion is complete. -/
  | incomplete (text : String)

/-- The conversion behind a percent sign, and the rest. -/
def conversion? (s : List Char) : Option (Conversion × List Char) :=
  let isMark := fun c => "#-+ 0".toList.contains c
  let digits := fun (s : List Char) =>
    match s with
    | '*' :: t => (['*'], t)
    | s => (s.takeWhile (·.isDigit), s.dropWhile (·.isDigit))
  let marks := s.takeWhile isMark
  let (width, s) := digits (s.dropWhile isMark)
  let (precision, s) := match s with
    | '.' :: t =>
      let (p, rest) := digits t
      (some p, rest)
    | s => (none, s)
  match s with
  | c :: rest => some (⟨marks, width, precision, c⟩, rest)
  | [] => none

/-- The parts of a format; the count bounds their number. -/
def formatItems : Nat → List Char → List FormatItem
  | 0, _ => []
  | _, [] => []
  | n + 1, '\\' :: s =>
    let (b, rest) := escapeByte s
    .bytes [b] :: formatItems n rest
  | n + 1, '%' :: '%' :: s => .bytes [37] :: formatItems n s
  | n + 1, '%' :: s =>
    match conversion? s with
    | some (c, rest) => .convert c :: formatItems n rest
    | none => [.incomplete (String.ofList ('%' :: s))]
  | n + 1, c :: s => .bytes (Utf8.encodeChar c) :: formatItems n s

/-- A number at the start of a text, whether it is there, and whether something follows. -/
def leadingNumber (s : List Char) : Int × Bool × Bool :=
  let s := s.dropWhile fun c => isSpace c || c == '\n'
  match s with
  | '\'' :: c :: _ => (c.toNat, true, false)
  | '"' :: c :: _ => (c.toNat, true, false)
  | s =>
    let (negative, t) := match s with
      | '-' :: t => (true, t)
      | '+' :: t => (false, t)
      | t => (false, t)
    let (base, t) := match t with
      | '0' :: 'x' :: u => (16, u)
      | '0' :: 'X' :: u => (16, u)
      | '0' :: u => (8, '0' :: u)
      | t => (10, t)
    let isDigitHere := fun c => c.isAlphanum && digitValue c < base
    let ds := t.takeWhile isDigitHere
    let n : Int := Int.ofNat (ds.foldl (fun n c => base * n + digitValue c) 0)
    (if negative then -n else n, !ds.isEmpty, !(t.dropWhile isDigitHere).isEmpty)

/-- Digits of a number in a base. -/
def digitsIn (base : Nat) (upper : Bool) (n : Nat) : List Char :=
  let ds := Nat.toDigits base n
  if upper then ds.map (·.toUpper) else ds

/-- The bytes of a field that is at least as wide as asked for. -/
def padded (left : Bool) (fill : UInt8) (width : Nat) (bs : List UInt8) : List UInt8 :=
  let more := List.replicate (width - bs.length) fill
  if left then bs ++ List.replicate (width - bs.length) 32 else more ++ bs

/-- The bytes of a number under a conversion. -/
def numberField (c : Conversion) (width : Nat) (precision : Option Nat) (n : Int) : List UInt8 :=
  let signed := c.letter == 'd' || c.letter == 'i'
  let magnitude : Nat := if signed then n.natAbs else (n.emod (Nat.pow 2 64 : Nat)).toNat
  let ds := match c.letter with
    | 'o' => digitsIn 8 false magnitude
    | 'x' => digitsIn 16 false magnitude
    | 'X' => digitsIn 16 true magnitude
    | _ => digitsIn 10 false magnitude
  let ds := List.replicate ((precision.getD 1) - ds.length) '0' ++ ds
  let ds := if c.marks.contains '#' then
      match c.letter with
      | 'o' => '0' :: ds
      | 'x' => if magnitude = 0 then ds else '0' :: 'x' :: ds
      | 'X' => if magnitude = 0 then ds else '0' :: 'X' :: ds
      | _ => ds
    else ds
  let sign := if signed then
      if n < 0 then ['-'] else if c.marks.contains '+' then ['+']
      else if c.marks.contains ' ' then [' '] else []
    else []
  let left := c.marks.contains '-'
  if c.marks.contains '0' && !left && precision.isNone then
    let more := List.replicate (width - sign.length - ds.length) '0'
    Utf8.encode (sign ++ more ++ ds)
  else padded left 32 width (Utf8.encode (sign ++ ds))

/-- The digits of a number with a point before the last ones of them. -/
def pointed (places n : Nat) : List Char :=
  let ds := Nat.toDigits 10 n
  let ds := List.replicate (places + 1 - ds.length) '0' ++ ds
  let whole := ds.take (ds.length - places)
  if places = 0 then whole else whole ++ '.' :: ds.drop (ds.length - places)

/-- A number with some decimal places. -/
def fixedPlaces (places num den : Nat) : List Char :=
  pointed places (roundDiv (num * Nat.pow 10 places) den)

/-- A number with one digit before the point and an exponent. -/
def withExponent (places num den : Nat) : List Char :=
  let scaled := fun (e : Int) =>
    if e < 0 then (num * Nat.pow 10 (places + e.natAbs), den)
    else (num * Nat.pow 10 places, den * Nat.pow 10 e.toNat)
  let rounded := fun (e : Int) => roundDiv (scaled e).1 (scaled e).2
  let e := if num = 0 then 0 else magnitude num den - 1
  let e := if num ≠ 0 && rounded e = Nat.pow 10 (places + 1) then e + 1 else e
  let size := (toString e.natAbs).toList
  pointed places (rounded e) ++ 'e' :: (if e < 0 then '-' else '+') ::
    (List.replicate (2 - size.length) '0' ++ size)

/-- The letters of conversions of numbers with decimal places. -/
def fractionLetters : List Char := ['f', 'F', 'e', 'E', 'g', 'G']

/-- The bytes of a number with decimal places under a conversion. -/
def fractionField (c : Conversion) (width : Nat) (precision : Option Nat) (x : Float) :
    List UInt8 :=
  let places := precision.getD 6
  let (negative, ds) := match Binary64.ofFloat x with
    | .nan => (false, "nan".toList)
    | .infinite negative => (negative, "inf".toList)
    | .finite negative m e =>
      let (num, den) := ratio m e
      (negative,
        if c.letter = 'f' || c.letter = 'F' then fixedPlaces places num den
        else if c.letter = 'e' || c.letter = 'E' then withExponent places num den
        else (brief x.abs).toList)
  let sign := if negative then ['-'] else if c.marks.contains '+' then ['+']
    else if c.marks.contains ' ' then [' '] else []
  let ds := if c.letter.isUpper then ds.map (·.toUpper) else ds
  if c.marks.contains '0' && !c.marks.contains '-' then
    Utf8.encode (sign ++ List.replicate (width - sign.length - ds.length) '0' ++ ds)
  else padded (c.marks.contains '-') 32 width (Utf8.encode (sign ++ ds))

/-- An argument that should be a number and is none. -/
structure NoNumber where
  /-- The argument. -/
  argument : String
  /-- Whether it starts with a number. -/
  startsWithNumber : Bool
  deriving DecidableEq, Repr

/-- Why a format cannot be followed to its end. -/
inductive FormatProblem where
  /-- There is no conversion of a letter. -/
  | unknown (letter : Char)
  /-- A conversion has no letter. -/
  | incomplete (text : String)
  deriving DecidableEq, Repr

/-- What a format has printed so far. -/
structure Printing where
  /-- The bytes. -/
  bytes : List UInt8
  /-- The arguments that are left. -/
  left : List String
  /-- The arguments that are no numbers. -/
  wrong : List NoNumber
  /-- The problem with the format that ended all output. -/
  problem : Option FormatProblem
  /-- Whether an escape ended all output. -/
  ended : Bool
  /-- Whether a conversion took an argument. -/
  took : Bool

namespace Printing

/-- The next argument. -/
def next (p : Printing) : String × Printing :=
  match p.left with
  | a :: rest => (a, { p with left := rest, took := true })
  | [] => ("", { p with took := true })

/-- The next argument as a number; none counts as zero. -/
def nextNumber (p : Printing) : Int × Printing :=
  let missing := p.left.isEmpty
  let (a, p) := p.next
  let (n, found, more) := leadingNumber a.toList
  let isWrong := !missing && (!found || more)
  (n, { p with wrong := p.wrong ++ if isWrong then [⟨a, found⟩] else [] })

/-- The next argument as a number with decimal places; none counts as zero. -/
def nextFraction (p : Printing) : Float × Printing :=
  let missing := p.left.isEmpty
  let (a, p) := p.next
  let s := a.toList.dropWhile fun c => isSpace c || c == '\n'
  let starts := (List.range (s.length + 1)).reverse.map fun n => (n, s.take n)
  match starts.findSome? fun t => (readFloat? (String.ofList t.2)).map (t.1, ·) with
  | some (n, x) =>
    (x, if n = s.length then p else { p with wrong := p.wrong ++ [⟨a, true⟩] })
  | none => (0, if missing then p else { p with wrong := p.wrong ++ [⟨a, false⟩] })

/-- A count that digits write, or that the next argument gives. -/
def count (p : Printing) (digits : List Char) : Int × Printing :=
  match digits with
  | ['*'] => p.nextNumber
  | ds => (Int.ofNat (ds.foldl (fun n c => 10 * n + (c.toNat - 48)) 0), p)

/-- More bytes. -/
def say (p : Printing) (bs : List UInt8) : Printing :=
  { p with bytes := p.bytes ++ bs }

/-- A conversion of the next argument. -/
def convert (p : Printing) (c : Conversion) : Printing :=
  let (width, p) := p.count c.width
  let c := if width < 0 then { c with marks := '-' :: c.marks } else c
  let width := width.natAbs
  let (precision, p) := match c.precision with
    | none => (none, p)
    | some ds =>
      let (n, p) := p.count ds
      (if n < 0 then none else some n.toNat, p)
  let left := c.marks.contains '-'
  let cut := fun (bs : List UInt8) =>
    match precision with
    | some n => bs.take n
    | none => bs
  match c.letter with
  | 's' =>
    let (a, p) := p.next
    p.say (padded left 32 width (cut (Utf8.ofString a)))
  | 'b' =>
    let (a, p) := p.next
    let (bs, ended) := escapedText a.toList
    { p.say (padded left 32 width (cut bs)) with ended := ended }
  | 'c' =>
    let (a, p) := p.next
    p.say (padded left 32 width ((Utf8.ofString a).take 1))
  | letter =>
    if ['d', 'i', 'u', 'o', 'x', 'X'].contains letter then
      let (n, p) := p.nextNumber
      p.say (numberField c width precision n)
    else if fractionLetters.contains letter then
      let (x, p) := p.nextFraction
      p.say (fractionField c width precision x)
    else { p with problem := some (.unknown letter), ended := true }

/-- One pass over a format. -/
def pass (p : Printing) : List FormatItem → Printing
  | [] => p
  | item :: items =>
    if p.ended then p
    else
      match item with
      | .bytes bs => pass (p.say bs) items
      | .convert c => pass (p.convert c) items
      | .incomplete text => { p with problem := some (.incomplete text), ended := true }

/-- Passes over a format as long as there are arguments; the count bounds their number. -/
def passes (items : List FormatItem) : Nat → Printing → Printing
  | 0, p => p
  | n + 1, p =>
    let p := { p with took := false }.pass items
    if p.ended || p.left.isEmpty || !p.took then p else passes items n p

end Printing

/-- What a format prints with arguments. -/
def formatted (format : String) (arguments : List String) : Printing :=
  let s := format.toList
  Printing.passes (formatItems (s.length + 1) s) (arguments.length + 1)
    ⟨[], arguments, [], none, false, false⟩

end ProofRelay.Shell
