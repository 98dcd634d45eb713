import ProofRelay.Decimal.Text
import ProofRelay.Json.Basic
import ProofRelay.Text.Hex

/-!
# Writing JSON documents

A document in ASCII: every character beyond it is written as numbered escapes, those past the
sixteen-bit code points as a surrogate pair.  A document is compact, without any space, or laid
out with one item on a line.

## Main definitions

* `Json.compact` : the document without space.
* `Json.indented` : the document with one item on a line.
* `Json.quoteText` : a text as a value of a document.
-/

namespace ProofRelay.Json

open ProofRelay.Text ProofRelay.Decimal

/-- A numbered escape. -/
def numberedEscape (n : Nat) : List Char :=
  '\\' :: 'u' :: fixedHex 4 n

/-- How a character of a text is written. -/
def writeChar (c : Char) : List Char :=
  match c with
  | '"' => ['\\', '"']
  | '\\' => ['\\', '\\']
  | '\n' => ['\\', 'n']
  | '\r' => ['\\', 'r']
  | '\t' => ['\\', 't']
  | '\x08' => ['\\', 'b']
  | '\x0c' => ['\\', 'f']
  | _ =>
    let n := c.toNat
    if 0x20 ≤ n ∧ n < 0x7f then [c]
    else if n < 0x10000 then numberedEscape n
    else
      numberedEscape (0xd800 + (n - 0x10000) / 0x400) ++
        numberedEscape (0xdc00 + (n - 0x10000) % 0x400)

/-- A text as a value of a document. -/
def quoteText (s : String) : String :=
  String.ofList ('"' :: s.toList.flatMap writeChar ++ ['"'])

/-- How a code point of a text is written. -/
def writePoint (n : Nat) : List Char :=
  match charOfPoint? n with
  | some c => writeChar c
  | none => numberedEscape n

/-- A text of code points as a value of a document. -/
def quotePoints (ps : List Nat) : String :=
  String.ofList ('"' :: ps.flatMap writePoint ++ ['"'])

/-- The name of a field, in which a stand-in is written as the half that it stands for. -/
def quoteName (s : String) : String :=
  quotePoints (pointsOfText s)

/-- A value that holds no other, and the empty list and object. -/
def scalar : Json → String
  | null => "null"
  | bool true => "true"
  | bool false => "false"
  | int n => toString n
  | float x => exactWith .document x
  | str s => quoteText s
  | torn ps => quotePoints ps
  | arr _ => "[]"
  | obj _ => "\x7b\x7d"

mutual

/-- The document without space. -/
def compact : Json → String
  | arr xs => "[" ++ ",".intercalate (compactItems xs) ++ "]"
  | obj fs => "\x7b" ++ ",".intercalate (compactFields fs) ++ "\x7d"
  | v => scalar v

/-- The items of a list without space. -/
def compactItems : List Json → List String
  | [] => []
  | v :: vs => compact v :: compactItems vs

/-- The fields of an object without space. -/
def compactFields : List (String × Json) → List String
  | [] => []
  | (k, v) :: fs => (quoteName k ++ ":" ++ compact v) :: compactFields fs

end

/-- The start of a line at a depth, two spaces for each level. -/
def lineStart (depth : Nat) : String :=
  String.ofList ('\n' :: List.replicate (2 * depth) ' ')

mutual

/-- The document with one item on a line, begun at a depth. -/
def indentedAt (depth : Nat) : Json → String
  | arr (x :: xs) =>
    "[" ++ lineStart (depth + 1) ++
      ("," ++ lineStart (depth + 1)).intercalate (indentedItems (depth + 1) (x :: xs)) ++
      lineStart depth ++ "]"
  | obj (f :: fs) =>
    "\x7b" ++ lineStart (depth + 1) ++
      ("," ++ lineStart (depth + 1)).intercalate (indentedFields (depth + 1) (f :: fs)) ++
      lineStart depth ++ "\x7d"
  | v => scalar v

/-- The items of a list, each for a line of its own. -/
def indentedItems (depth : Nat) : List Json → List String
  | [] => []
  | v :: vs => indentedAt depth v :: indentedItems depth vs

/-- The fields of an object, each for a line of its own. -/
def indentedFields (depth : Nat) : List (String × Json) → List String
  | [] => []
  | (k, v) :: fs => (quoteName k ++ ": " ++ indentedAt depth v) :: indentedFields depth fs

end

/-- The document with one item on a line. -/
def indented (v : Json) : String :=
  indentedAt 0 v

end ProofRelay.Json
