import ProofRelay.Text.CodePoints
import ProofRelay.Text.Hex
import ProofRelay.Text.PrintableTable

/-!
# Quoted text

Text shown to an operator between quotation marks.  Single marks are used unless the text holds
one and no double mark; the mark in use, the backslash and every character that is not printable
are escaped, and the stand-in of half a surrogate pair is written as the half.

## Main definitions

* `Quoted.mark` : the mark that a text is quoted with.
* `Quoted.escape` : how a character is written between marks.
* `quoted` : a text between its marks.
-/

namespace ProofRelay.Text

namespace Quoted

/-- The mark that a text is quoted with. -/
def mark (s : List Char) : Char :=
  if s.contains '\'' && !s.contains '"' then '"' else '\''

/-- The number of a character that is not printable, behind a backslash, in the shortest of
three widths. -/
def numbered (n : Nat) : List Char :=
  if n < 0x100 then '\\' :: 'x' :: fixedHex 2 n
  else if n < 0x10000 then '\\' :: 'u' :: fixedHex 4 n
  else '\\' :: 'U' :: fixedHex 8 n

/-- How a character is written between marks. -/
def escape (mark c : Char) : List Char :=
  if c == mark || c == '\\' then ['\\', c]
  else if c == '\n' then ['\\', 'n']
  else if c == '\r' then ['\\', 'r']
  else if c == '\t' then ['\\', 't']
  else if isPrintable c then [c]
  else numbered (pointOfChar c)

end Quoted

/-- A text between its quotation marks. -/
def quoted (s : String) : String :=
  let m := Quoted.mark s.toList
  String.ofList (m :: s.toList.flatMap (Quoted.escape m) ++ [m])

/-- The first code points of the quoted form of a text, at most `limit` of them. -/
def quotedUpTo (limit : Nat) (s : String) : String :=
  String.ofList ((quoted s).toList.take limit)

end ProofRelay.Text
