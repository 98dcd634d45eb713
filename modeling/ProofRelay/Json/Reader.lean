import ProofRelay.Decimal.Reading
import ProofRelay.Json.Basic
import ProofRelay.Text.Hex
import ProofRelay.Text.Lines

/-!
# Reading JSON documents

A reader that names the first place where a text stops being a JSON document, by line, column
and offset.  It follows the grammar with three extensions: the names `NaN`, `Infinity` and
`-Infinity` are numbers, a repeated field name keeps its last value, and half of a surrogate
pair may stand alone; in the name of a field a private-use character stands in for it.

Values may be nested to any depth.  The depth at which a reader of this kind gives up, because its
own calls are nested as deep, is a limit of the system that runs it and is left out.

A refusal carries the count of characters from the offending one to the end of the text, so
that the parts of the reader need not know where they stand.

## Main definitions

* `Json.read` : the value of a document.
* `Json.Refusal` : where and why a text is no document.
-/

namespace ProofRelay.Json

open ProofRelay.Text ProofRelay.Decimal

/-- Why a text is no document. -/
inductive Problem where
  /-- A value is missing. -/
  | expectingValue
  /-- Text follows the value. -/
  | extraData
  /-- The name of a field is missing. -/
  | expectingName
  /-- The colon after the name of a field is missing. -/
  | expectingColon
  /-- The comma between two items is missing. -/
  | expectingComma
  /-- A text has no end. -/
  | unterminatedText
  /-- A control character inside a text. -/
  | controlCharacter
  /-- An unknown escape inside a text. -/
  | invalidEscape
  /-- A numbered escape without its four digits. -/
  | invalidNumberedEscape
  /-- The document begins with a byte order mark. -/
  | byteOrderMark
  /-- A whole number with this many digits, which is over the limit. -/
  | tooManyDigits (digits : Nat)
  deriving DecidableEq, Repr

/-- Where and why a text is no document; the place is given by the count of characters from it
to the end of the text. -/
structure Refusal where
  /-- The reason. -/
  problem : Problem
  /-- The characters from the offending one on. -/
  left : Nat
  deriving DecidableEq, Repr

/-- The words for a problem. -/
def Problem.text : Problem → String
  | .expectingValue => "Expecting value"
  | .extraData => "Extra data"
  | .expectingName => "Expecting property name enclosed in double quotes"
  | .expectingColon => "Expecting ':' delimiter"
  | .expectingComma => "Expecting ',' delimiter"
  | .unterminatedText => "Unterminated string starting at"
  | .controlCharacter => "Invalid control character at"
  | .invalidEscape => "Invalid \\escape"
  | .invalidNumberedEscape => "Invalid \\uXXXX escape"
  | .byteOrderMark => "Unexpected UTF-8 BOM (decode using utf-8-sig)"
  | .tooManyDigits n => Decimal.tooManyDigits n

/-- Whether a refusal is of the document's form; the other ones are of a number's size. -/
def Refusal.isOfForm (r : Refusal) : Bool :=
  match r.problem with
  | .tooManyDigits _ => false
  | _ => true

/-- The report of a refusal of a text: the reason, and the place by line, column and offset. -/
def Refusal.message (r : Refusal) (text : List Char) : String :=
  if r.isOfForm then
    let offset := text.length - r.left
    let before := text.take offset
    let line := before.count '\n' + 1
    let column := (before.reverse.takeWhile (· ≠ '\n')).length + 1
    r.problem.text ++ ": line " ++ toString line ++ " column " ++ toString column ++
      " (char " ++ toString offset ++ ")"
  else r.problem.text

/-- What a part of the reader gives: its result and the rest of the text. -/
abbrev Reading (α : Type) := Except Refusal (α × List Char)

/-- A refusal at the first character of a text. -/
def refuse {α : Type} (problem : Problem) (s : List Char) : Reading α :=
  .error ⟨problem, s.length⟩

/-- The characters that may stand between the tokens. -/
def isSpace (c : Char) : Bool :=
  c == ' ' || c == '\t' || c == '\n' || c == '\r'

/-- Text without the space that it begins with. -/
def skipSpace (s : List Char) : List Char :=
  s.dropWhile isSpace

/-! ### Texts -/

/-- The value of four hexadecimal digits. -/
def hexFour? (a b c d : Char) : Option Nat :=
  hexNumber? [a, b, c, d]

/-- The character of an escape of one letter. -/
def escaped? (c : Char) : Option Char :=
  match c with
  | '"' => some '"'
  | '\\' => some '\\'
  | '/' => some '/'
  | 'b' => some '\x08'
  | 'f' => some '\x0c'
  | 'n' => some '\n'
  | 'r' => some '\r'
  | 't' => some '\t'
  | _ => none

/-- A code point in front of a reading. -/
def consPoint (n : Nat) (r : Reading (List Nat)) : Reading (List Nat) :=
  r.map fun p => (n :: p.1, p.2)

/-- The code points of a text up to its closing mark, the pairs not yet joined, where `opening` is
the text from its opening mark on.  The four digits of a numbered escape must be followed by a
character. -/
def textPoints (opening : List Char) : List Char → Reading (List Nat)
  | [] => .error ⟨.unterminatedText, opening.length⟩
  | '"' :: s => .ok ([], s)
  | ['\\'] => .error ⟨.unterminatedText, opening.length⟩
  | '\\' :: 'u' :: a :: b :: c :: d :: e :: s =>
    match hexFour? a b c d with
    | some n => consPoint n (textPoints opening (e :: s))
    | none => .error ⟨.invalidNumberedEscape, s.length + 6⟩
  | '\\' :: c :: s =>
    if c == 'u' then .error ⟨.invalidNumberedEscape, s.length + 1⟩
    else
      match escaped? c with
      | some e => consPoint e.toNat (textPoints opening s)
      | none => .error ⟨.invalidEscape, s.length + 2⟩
  | c :: s =>
    if c.toNat < 0x20 then .error ⟨.controlCharacter, s.length + 1⟩
    else consPoint c.toNat (textPoints opening s)

/-- The text up to its closing mark, as the name of a field. -/
def nameBody (opening s : List Char) : Reading String :=
  (textPoints opening s).map fun p => (textOfPoints (joinHalves p.1), p.2)

/-- The text up to its closing mark, as a value. -/
def textBody (opening s : List Char) : Reading Json :=
  (textPoints opening s).map fun p => (ofPoints (joinHalves p.1), p.2)

/-! ### Numbers -/

/-- The value of an ASCII digit. -/
def asciiDigit? (c : Char) : Option Nat :=
  if c.isDigit then some (c.toNat - 48) else none

/-- The digits that a text begins with, and the rest. -/
def digits : List Char → List Nat × List Char
  | [] => ([], [])
  | c :: s =>
    match asciiDigit? c with
    | some d => (d :: (digits s).1, (digits s).2)
    | none => ([], c :: s)

/-- The digits after a point, if a digit follows one. -/
def fraction (s : List Char) : List Nat × List Char :=
  match s with
  | '.' :: t => if (digits t).1.isEmpty then ([], s) else digits t
  | _ => ([], s)

/-- The power of ten after the letter `e`, if a digit follows it. -/
def power (s : List Char) : Option Int × List Char :=
  match s with
  | c :: t =>
    if c == 'e' || c == 'E' then
      let (negative, t) := signRun t
      match digits t with
      | ([], _) => (none, s)
      | (ds, rest) =>
        let n : Int := ofDigits ds
        (some (if negative then -n else n), rest)
    else (none, s)
  | [] => (none, s)

/-- The digits in front of the point: a zero stands alone. -/
def wholePart : List Char → Option (List Nat × List Char)
  | '0' :: s => some ([0], s)
  | s =>
    match digits s with
    | ([], _) => none
    | r => some r

/-- The number that a text begins with. -/
def number (s : List Char) : Reading Json :=
  let (negative, t) :=
    match s with
    | '-' :: t => (true, t)
    | _ => (false, s)
  match wholePart t with
  | none => refuse .expectingValue s
  | some (whole, t) =>
    let (frac, u) := fraction t
    let (exp, rest) := power u
    if frac.isEmpty && exp.isNone then
      if digitLimit < whole.length then refuse (.tooManyDigits whole.length) s
      else
        let n : Int := ofDigits whole
        .ok (.int (if negative then -n else n), rest)
    else
      .ok (.float (ofDecimal negative (ofDigits (whole ++ frac)) (exp.getD 0 - frac.length)),
        rest)

/-! ### Values -/

/-- The number not a number. -/
def notANumber : Float := Float.ofBits 0x7ff8000000000000

/-- The positive infinity. -/
def infinity : Float := Float.ofBits 0x7ff0000000000000

/-- The negative infinity. -/
def negativeInfinity : Float := Float.ofBits 0xfff0000000000000

/-- The values that are written as a word. -/
def words : List (String × Json) :=
  [("null", .null), ("true", .bool true), ("false", .bool false), ("NaN", .float notANumber),
    ("Infinity", .float infinity), ("-Infinity", .float negativeInfinity)]

/-- The word that a text begins with. -/
def word? (s : List Char) : Option (Json × List Char) :=
  words.findSome? fun w =>
    if w.1.toList.isPrefixOf s then some (w.2, s.drop w.1.length) else none

mutual

/-- The value that a text begins with, with a bound on the depth and length of what is read. -/
def value : Nat → List Char → Reading Json
  | 0, s => refuse .expectingValue s
  | fuel + 1, s =>
    match s with
    | '"' :: t => textBody s t
    | '[' :: t =>
      match skipSpace t with
      | ']' :: t => .ok (.arr [], t)
      | t => (items fuel t).map fun p => (.arr p.1, p.2)
    | '\x7b' :: t =>
      match skipSpace t with
      | '\x7d' :: t => .ok (.obj [], t)
      | t => (members fuel t).map fun p => (.obj (ofWrites p.1), p.2)
    | _ =>
      match word? s with
      | some r => .ok r
      | none => number s

/-- The items of a list up to its end. -/
def items : Nat → List Char → Reading (List Json)
  | 0, s => refuse .expectingValue s
  | fuel + 1, s =>
    match value fuel s with
    | .error e => .error e
    | .ok (v, t) =>
      match skipSpace t with
      | ']' :: t => .ok ([v], t)
      | ',' :: t => (items fuel (skipSpace t)).map fun p => (v :: p.1, p.2)
      | t => refuse .expectingComma t

/-- The fields of an object up to its end. -/
def members : Nat → List Char → Reading Fields
  | 0, s => refuse .expectingName s
  | fuel + 1, s =>
    match field fuel s with
    | .error e => .error e
    | .ok (f, t) =>
      match skipSpace t with
      | '\x7d' :: t => .ok ([f], t)
      | ',' :: t => (members fuel (skipSpace t)).map fun p => (f :: p.1, p.2)
      | t => refuse .expectingComma t

/-- A field with its name. -/
def field : Nat → List Char → Reading (String × Json)
  | 0, s => refuse .expectingName s
  | fuel + 1, s =>
    match s with
    | '"' :: t =>
      match nameBody s t with
      | .error e => .error e
      | .ok (name, t) =>
        match skipSpace t with
        | ':' :: t => (value fuel (skipSpace t)).map fun p => ((name, p.1), p.2)
        | t => refuse .expectingColon t
    | _ => refuse .expectingName s

end

/-- The value of a document.  Every step of the reader takes at least one character, so that its
length bounds the steps. -/
def readChars (s : List Char) : Except Refusal Json :=
  match s with
  | '\ufeff' :: _ => .error ⟨.byteOrderMark, s.length⟩
  | _ =>
    match value (3 * s.length + 3) (skipSpace s) with
    | .error e => .error e
    | .ok (v, rest) =>
      match skipSpace rest with
      | [] => .ok v
      | t => .error ⟨.extraData, t.length⟩

/-- The value of a document. -/
def read (text : String) : Except Refusal Json :=
  readChars text.toList

end ProofRelay.Json
