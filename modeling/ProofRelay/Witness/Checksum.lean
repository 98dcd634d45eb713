import ProofRelay.Fault
import ProofRelay.Text.Lines
import ProofRelay.Text.WordTable

/-!
# Checksums in tool output

The checksum of a witness follows the word `checksum` and a colon at the start of a line, or else
the sentence `hash of the file is:` anywhere.  Case does not matter, also not where a letter
outside ASCII folds to one inside.

## Main definitions

* `Checksum.ofLines` : the checksum of the first labelled line.
* `Checksum.ofSentence` : the checksum after the first sentence.
* `Checksum.read` : the checksum in an output.
-/

namespace ProofRelay.Checksum

open ProofRelay.Text

/-- A letter as it is compared. -/
def fold (c : Char) : Char :=
  if c.toNat = 0x212a then 'k'
  else if c.toNat = 0x17f then 's'
  else if c.toNat = 0x130 ∨ c.toNat = 0x131 then 'i'
  else c.toLower

/-- The text after a word in lower case, if it begins with the word. -/
def afterWord? : List Char → List Char → Option (List Char)
  | [], s => some s
  | _ :: _, [] => none
  | w :: ws, c :: s => if fold c = w then afterWord? ws s else none

/-- Text without the spaces and tabs that it begins with. -/
def skipBlanks (s : List Char) : List Char :=
  s.dropWhile fun c => c == ' ' || c == '\t'

/-- The run of characters, none of them blank, that a text begins with after spaces and tabs. -/
def valueRun? (s : List Char) : Option (List Char) :=
  match (skipBlanks s).takeWhile (!isBlank ·) with
  | [] => none
  | v => some v

/-- The checksum of a line that is labelled with one. -/
def ofLine? (line : List Char) : Option (List Char) := do
  let s ← afterWord? "checksum".toList (skipBlanks line)
  match skipBlanks s with
  | ':' :: s => valueRun? s
  | _ => none

/-- The checksum of the first labelled line. -/
def ofLines? (text : List Char) : Option (List Char) :=
  (lines text).findSome? ofLine?

/-- The checksum after the first sentence that names one; in front of the sentence there must
not be a part of a word, and `inWord` says whether there is. -/
def ofSentence? (inWord : Bool) : List Char → Option (List Char)
  | [] => none
  | c :: s =>
    let here :=
      if inWord then none
      else (afterWord? "hash of the file is:".toList (c :: s)).bind valueRun?
    match here with
    | some v => some v
    | none => ofSentence? (isWordChar c) s

/-- The checksum in an output. -/
def read (output : String) : Except Fault String :=
  match ofLines? output.toList with
  | some v => .ok (String.ofList v)
  | none =>
    match ofSentence? false output.toList with
    | some v => .ok (String.ofList v)
    | none =>
      .error (.stage (.withOutput .checksum "no checksum line in checksum tool output" output))

end ProofRelay.Checksum
