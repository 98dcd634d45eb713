import ProofRelay.Shell.Format
import ProofRelay.Shell.Pattern
import ProofRelay.Shell.State
import ProofRelay.Text.Base64
import ProofRelay.Text.Digest
import ProofRelay.Text.Folding

/-!
# Filters

The programs of the system that read text and print a part of it, or the text in another form.
They work on bytes, and order text by its bytes.

## Main definitions

* `lettersOf` : options that are single letters, and the other arguments.
* `byteLines` : the lines of a text with their ends.
* `LinePattern` : which lines a search finds.
* `LineChange` : what an editor of lines does to a line.
* `filter?` : what a filter does.
-/

namespace ProofRelay.Shell

open ProofRelay.Text

/-! ### Arguments -/

/-- The options that a group of letters stands for, and the letter whose value is the next
argument.  Digits stand for a number of lines. -/
def letterGroup (valued : List Char) : List Char → List (Char × String) × Option Char
  | [] => ([], none)
  | c :: cs =>
    if c.isDigit then ([('n', String.ofList (c :: cs))], none)
    else if valued.contains c then
      if cs.isEmpty then ([], some c) else ([(c, String.ofList cs)], none)
    else
      let r := letterGroup valued cs
      ((c, "") :: r.1, r.2)

/-- Options that are single letters, and the other arguments. -/
def lettersOf (valued : List Char) : Option Char → List String →
    List (Char × String) × List String
  | _, [] => ([], [])
  | some c, w :: ws =>
    let r := lettersOf valued none ws
    ((c, w) :: r.1, r.2)
  | none, w :: ws =>
    if w = "--" then ([], ws)
    else
      match w.toList with
      | '-' :: c :: cs =>
        let group := letterGroup valued (c :: cs)
        let r := lettersOf valued group.2 ws
        (group.1 ++ r.1, r.2)
      | _ =>
        let r := lettersOf valued none ws
        (r.1, w :: r.2)

/-- The value of an option. -/
def letterValue? (options : List (Char × String)) (c : Char) : Option String :=
  (options.find? fun o => o.1 == c).map (·.2)

/-- Whether an option is given. -/
def hasLetter (options : List (Char × String)) (c : Char) : Bool :=
  options.any fun o => o.1 == c

/-! ### Text -/

/-- The lines of a text with their ends. -/
def byteLines : List UInt8 → List (List UInt8)
  | [] => []
  | b :: bs =>
    if b = 10 then [b] :: byteLines bs
    else
      match byteLines bs with
      | [] => [[b]]
      | l :: ls => (b :: l) :: ls

/-- A line without its end. -/
def lineBody (line : List UInt8) : List UInt8 :=
  line.filter (· ≠ 10)

/-- The text of files, or what is left to read if none is named, and whether every file was read.
A problem is reported with the path put into words. -/
def textOfFiles (words : String → String) (paths : List String) : Action (List UInt8 × Bool) :=
  (if paths.isEmpty then ["-"] else paths).foldlM (fun text path => do
    let s ← get
    if path = "-" then
      set { s with input := [] }
      return (text.1 ++ s.input, text.2)
    else
      match s.files.statusOfText path with
      | .ok (.file bytes _) => return (text.1 ++ bytes, text.2)
      | other => do
        let problem := match other with
          | .error e => e
          | .ok _ => .isDirectory
        sayError (s.name ++ ": " ++ words path ++ ": " ++ problem.text ++ "\n")
        return (text.1, false)) ([], true)

/-- The status of a program that read its files or did not. -/
def statusOfReading (wasRead : Bool) : Nat :=
  if wasRead then 0 else 1

/-! ### Parts of a text -/

/-- The words for a file that cannot be opened. -/
def openingWords (path : String) : String :=
  "cannot open '" ++ path ++ "' for reading"

/-- The start of a list: so many members, or all but so many of them if the number is negative. -/
def startOf {α : Type} (count : String) (xs : List α) : List α :=
  match count.toInt? with
  | some (.negSucc k) => xs.take (xs.length - (k + 1))
  | some (.ofNat n) => xs.take n
  | none => xs

/-- The end of a list: so many members, or all from a place on that is marked with a sign. -/
def endOf {α : Type} (count : String) (xs : List α) : List α :=
  match count.toList with
  | '+' :: n => xs.drop ((String.ofList n).toNat?.getD 1 - 1)
  | n => xs.drop (xs.length - (String.ofList (n.dropWhile (· == '-'))).toNat?.getD 10)

/-- The program that shows the start of a text. -/
def headFilter : List String → Action Nat := fun words => do
  let (options, paths) := lettersOf ['n', 'c'] none words
  match letterValue? options 'c', paths with
  | some count, ["/dev/zero"] => do
    sayBytes 1 (List.replicate (count.toNat?.getD 0) 0)
    return 0
  | bytes, _ => do
    let (text, wasRead) ← textOfFiles openingWords paths
    match bytes with
    | some count => sayBytes 1 (startOf count text)
    | none => sayBytes 1 (startOf ((letterValue? options 'n').getD "10") (byteLines text)).flatten
    return statusOfReading wasRead

/-- The program that shows the end of a text. -/
def tailFilter : List String → Action Nat := fun words => do
  let (options, paths) := lettersOf ['n', 'c'] none words
  let (text, wasRead) ← textOfFiles openingWords paths
  match letterValue? options 'c' with
  | some count => sayBytes 1 (endOf count text)
  | none => sayBytes 1 (endOf ((letterValue? options 'n').getD "10") (byteLines text)).flatten
  return statusOfReading wasRead

/-- The places that a list of numbers and ranges selects. -/
def selects (ranges : String) (place : Nat) : Bool :=
  (cutAt ',' ranges).any fun r =>
    match cutAt '-' r with
    | [a] => a.toNat? = some place
    | [a, b] => a.toNat?.getD 1 ≤ place && (b.isEmpty || place ≤ b.toNat?.getD 0)
    | _ => false

/-- The members of a list at the places that numbers and ranges select. -/
def selected {α : Type} (ranges : String) (xs : List α) : List α :=
  (xs.zipIdx 1).filterMap fun p => if selects ranges p.2 then some p.1 else none

/-- The program that shows parts of every line. -/
def cutFilter : List String → Action Nat := fun words => do
  let (options, paths) := lettersOf ['d', 'f', 'c', 'b'] none words
  let (text, wasRead) ← textOfFiles id paths
  let part := fun (line : List UInt8) =>
    match letterValue? options 'f', letterValue? options 'c' <|> letterValue? options 'b' with
    | some fields, _ =>
      let mark := ((letterValue? options 'd').bind (·.toList.head?)).getD '\t'
      let parts := cutAt mark (textOf line)
      if parts.length = 1 then line
      else Utf8.ofString (joined (String.singleton mark) (selected fields parts))
    | none, some places => selected places line
    | none, none => line
  sayBytes 1 ((byteLines text).flatMap fun line => part (lineBody line) ++ [10])
  return statusOfReading wasRead

/-! ### Counts and order -/

/-- The number of words in a text. -/
def wordCount (text : List UInt8) : Nat :=
  let isGap := fun (b : UInt8) => b = 32 || (9 ≤ b && b ≤ 13)
  (text.foldl (fun (n, gap) b => (if gap && !isGap b then n + 1 else n, isGap b))
    ((0 : Nat), true)).1

/-- A number with blanks in front of it. -/
def paddedNumber (width n : Nat) : String :=
  let digits := toString n
  String.ofList (List.replicate (width - digits.length) ' ') ++ digits

/-- The program that counts lines, words and bytes. -/
def countFilter : List String → Action Nat := fun words => do
  let (options, paths) := lettersOf [] none words
  let (text, wasRead) ← textOfFiles id paths
  let counts := [('l', text.count 10), ('w', wordCount text), ('c', text.length)]
  let wanted := counts.filter fun c => options.isEmpty || hasLetter options c.1
  let width := if wanted.length ≤ 1 then 0 else if paths.isEmpty then 7
    else (toString text.length).length
  if wasRead then
    say (joined " " (wanted.map (fun c => paddedNumber width c.2) ++ paths) ++ "\n")
  return statusOfReading wasRead

/-- Whether a line comes before another one or at the same place, in the order of their bytes. -/
def lineLe : List UInt8 → List UInt8 → Bool
  | [], _ => true
  | _ :: _, [] => false
  | a :: as, b :: bs => a < b || (a = b && lineLe as bs)

/-- The number that a line begins with. -/
def lineNumber (line : List UInt8) : Int :=
  let s := (textOf line).toList.dropWhile (· == ' ')
  let digits := fun (s : List Char) => (String.ofList (s.takeWhile Char.isDigit)).toNat?.getD 0
  match s with
  | '-' :: s => -(digits s : Int)
  | s => digits s

/-- Lines of which equal ones that follow one another are kept once, with their number. -/
def runs : List (List UInt8) → List (Nat × List UInt8)
  | [] => []
  | l :: ls =>
    match runs ls with
    | (n, m) :: rest => if l = m then (n + 1, m) :: rest else (1, l) :: (n, m) :: rest
    | [] => [(1, l)]

/-- The program that puts lines into order. -/
def sortFilter : List String → Action Nat := fun words => do
  let (options, paths) := lettersOf ['k', 't'] none words
  let (text, wasRead) ← textOfFiles ("cannot read: " ++ ·) paths
  if !wasRead then return 2
  let numeric := hasLetter options 'n'
  let le := fun (a b : List UInt8) =>
    if numeric && lineNumber a ≠ lineNumber b then decide (lineNumber a < lineNumber b)
    else lineLe a b
  let ordered := ((byteLines text).map lineBody).mergeSort
    fun a b => if hasLetter options 'r' then le b a else le a b
  let ordered := if hasLetter options 'u' then (runs ordered).map (·.2) else ordered
  sayBytes 1 (ordered.flatMap (· ++ [10]))
  return 0

/-- The program that shows one of equal lines that follow one another. -/
def uniqFilter : List String → Action Nat := fun words => do
  let (options, paths) := lettersOf [] none words
  let (text, wasRead) ← textOfFiles id paths
  (runs ((byteLines text).map lineBody)).forM fun r => do
    if hasLetter options 'c' then say (paddedNumber 7 r.1 ++ " ")
    unless (hasLetter options 'd' && r.1 = 1) || (hasLetter options 'u' && r.1 ≠ 1) do
      sayBytes 1 (r.2 ++ [10])
  return statusOfReading wasRead

/-! ### Other characters -/

/-- The bytes from one to another. -/
def byteRange (first last : UInt8) : List UInt8 :=
  (List.range (last.toNat + 1 - first.toNat)).map fun k => first + UInt8.ofNat k

/-- The bytes of the class of a name. -/
def namedBytes (name : String) : List UInt8 :=
  match name with
  | "lower" => byteRange 97 122
  | "upper" => byteRange 65 90
  | "digit" => byteRange 48 57
  | "alpha" => byteRange 65 90 ++ byteRange 97 122
  | "alnum" => byteRange 48 57 ++ byteRange 65 90 ++ byteRange 97 122
  | "space" => byteRange 9 13 ++ [32]
  | _ => []

/-- The bytes of a set in which ranges are written out; the count bounds its parts. -/
def expandedSet : Nat → List UInt8 → List UInt8
  | 0, s => s
  | n + 1, a :: 45 :: b :: s => byteRange a b ++ expandedSet n s
  | n + 1, a :: s => a :: expandedSet n s
  | _, [] => []

/-- The bytes that a set of characters stands for. -/
def bytesOfSet (text : String) : List UInt8 :=
  match text.toList with
  | '[' :: ':' :: name => namedBytes (String.ofList (name.takeWhile (· ≠ ':')))
  | s =>
    let bytes := (escapedText s).1
    expandedSet bytes.length bytes

/-- The program that puts other characters in the place of some, or leaves them out. -/
def characterFilter : List String → Action Nat := fun words => do
  let (options, sets) := lettersOf [] none words
  let (text, _) ← textOfFiles id []
  let first := bytesOfSet (sets.headD "")
  let isMeant := fun (b : UInt8) =>
    first.contains b != (hasLetter options 'c' || hasLetter options 'C')
  if hasLetter options 'd' then
    sayBytes 1 (text.filter fun b => !isMeant b)
  else
    let second := bytesOfSet ((sets.drop 1).headD "")
    let last := second.getLast?
    let other := fun (b : UInt8) =>
      if isMeant b then (second[first.findIdx (· = b)]? <|> last).getD b else b
    sayBytes 1 (text.map other)
  return 0

/-! ### Searches -/

/-- A part of a line pattern: what it stands for, and whether it may be repeated. -/
structure LineItem where
  /-- What it stands for. -/
  item : PatternItem
  /-- Whether it may stand there any number of times. -/
  isRepeated : Bool

/-- Which lines a search finds. -/
structure LinePattern where
  /-- Whether the pattern stands at the start of a line. -/
  fromStart : Bool
  /-- The parts. -/
  items : List LineItem
  /-- Whether the pattern reaches to the end of a line. -/
  toEnd : Bool

/-- Whether a part without repetition stands for a character. -/
def PatternItem.holds (p : PatternItem) (c : Char) : Bool :=
  fits [p] [c]

/-- The parts of a line pattern, and whether it reaches to the end; the count bounds the number
of parts. -/
def lineItems : Nat → List Char → List LineItem × Bool
  | 0, _ => ([], false)
  | _, [] => ([], false)
  | _, ['$'] => ([], true)
  | n + 1, s =>
    let (item, rest) : PatternItem × List Char :=
      match s with
      | '\\' :: c :: t => (.one c, t)
      | '.' :: t => (.any, t)
      | '[' :: t =>
        let negated := t.head? = some '^'
        let t := if negated then t.drop 1 else t
        match t with
        | c :: u =>
          (.set negated (rangesOf (c :: u.takeWhile (· ≠ ']'))), (u.dropWhile (· ≠ ']')).drop 1)
        | [] => (.one '[', [])
      | c :: t => (.one c, t)
      | [] => (.any, [])
    let isRepeated := rest.head? = some '*'
    let r := lineItems n (if isRepeated then rest.drop 1 else rest)
    (⟨item, isRepeated⟩ :: r.1, r.2)

/-- The pattern that a text writes. -/
def LinePattern.ofString (text : String) : LinePattern :=
  let s := text.toList
  let fromStart := s.head? = some '^'
  let s := if fromStart then s.drop 1 else s
  let (items, toEnd) := lineItems (s.length + 1) s
  ⟨fromStart, items, toEnd⟩

/-- The pattern of a text that stands for itself. -/
def LinePattern.plain (text : String) : LinePattern :=
  ⟨false, text.toList.map fun c => ⟨.one c, false⟩, false⟩

/-- Whether a text begins with what parts stand for. -/
def fitsFront (toEnd : Bool) : List LineItem → List Char → Bool
  | [], s => !toEnd || s.isEmpty
  | ⟨_, true⟩ :: ps, [] => fitsFront toEnd ps []
  | ⟨p, true⟩ :: ps, c :: s =>
    fitsFront toEnd ps (c :: s) || (p.holds c && fitsFront toEnd (⟨p, true⟩ :: ps) s)
  | ⟨_, false⟩ :: _, [] => false
  | ⟨p, false⟩ :: ps, c :: s => p.holds c && fitsFront toEnd ps s
termination_by ps s => ps.length + s.length

/-- Whether a search finds a line. -/
def LinePattern.finds (p : LinePattern) (line : List Char) : Bool :=
  if p.fromStart then fitsFront p.toEnd p.items line
  else (List.range (line.length + 1)).any fun n => fitsFront p.toEnd p.items (line.drop n)

/-- The program that searches for lines. -/
def searchFilter : List String → Action Nat := fun words => do
  let (options, rest) := lettersOf ['e'] none words
  let (pattern, paths) := match letterValue? options 'e' with
    | some p => (p, rest)
    | none => (rest.headD "", rest.drop 1)
  let ignoresCase := hasLetter options 'i'
  let folded := fun (s : String) => if ignoresCase then s.toLower else s
  let pattern := folded pattern
  let pattern := if hasLetter options 'F' then .plain pattern else LinePattern.ofString pattern
  let pattern := if hasLetter options 'x' then { pattern with fromStart := true, toEnd := true }
    else pattern
  let (text, wasRead) ← textOfFiles id paths
  let found := (((byteLines text).map lineBody).zipIdx 1).filter fun line =>
    pattern.finds (folded (textOf line.1)).toList != hasLetter options 'v'
  unless hasLetter options 'q' do
    if hasLetter options 'c' then say (toString found.length ++ "\n")
    else
      found.forM fun line => do
        if hasLetter options 'n' then say (toString line.2 ++ ":")
        sayBytes 1 (line.1 ++ [10])
  return if !wasRead && !(hasLetter options 'q' && !found.isEmpty) then 2
    else if found.isEmpty then 1 else 0

/-! ### Changes of lines -/

/-- The longest part at the start of a text that a pattern stands for. -/
def LinePattern.reach? (p : LinePattern) (s : List Char) : Option Nat :=
  (List.range (s.length + 1)).reverse.find? fun n =>
    (!p.toEnd || n = s.length) && fitsFront true p.items (s.take n)

/-- A text with a part of it taken in where an ampersand stands. -/
def withPart (part : List Char) : List Char → List Char
  | '\\' :: 'n' :: s => '\n' :: withPart part s
  | '\\' :: c :: s => c :: withPart part s
  | '&' :: s => part ++ withPart part s
  | c :: s => c :: withPart part s
  | [] => []

/-- A line with the parts replaced that a pattern stands for, all of them or the first one, and
whether there are any; the count bounds their number. -/
def LinePattern.replace (p : LinePattern) (new : List Char) (all : Bool) :
    Nat → Bool → List Char → List Char × Bool
  | 0, _, s => (s, false)
  | n + 1, atStart, s =>
    match if p.fromStart && !atStart then none else p.reach? s with
    | some k =>
      let put := withPart (s.take k) new
      if !all then (put ++ s.drop k, true)
      else if k = 0 then
        match s with
        | [] => (put, true)
        | c :: t => (put ++ c :: (p.replace new all n false t).1, true)
      else if (s.drop k).isEmpty then (put, true)
      else (put ++ (p.replace new all n false (s.drop k)).1, true)
    | none =>
      match s with
      | [] => ([], false)
      | c :: t =>
        let r := p.replace new all n false t
        (c :: r.1, r.2)

/-- Which lines a change is for. -/
inductive LineChoice where
  /-- All lines. -/
  | all
  /-- The lines from one number to another. -/
  | range (first last : Nat)
  /-- The last line. -/
  | last
  /-- The lines that a search finds. -/
  | found (p : LinePattern)

/-- What is done to a line. -/
inductive LineChange where
  /-- Parts are replaced. -/
  | replace (p : LinePattern) (new : List Char) (all shows : Bool)
  /-- The line is shown. -/
  | shown
  /-- The line is left out. -/
  | dropped
  /-- The line is the last one. -/
  | final

/-- The part of a text up to a mark that is not quoted, and the rest behind it. -/
def upToMarkChar (mark : Char) : List Char → List Char × List Char
  | [] => ([], [])
  | '\\' :: c :: s =>
    let r := upToMarkChar mark s
    (if c = mark then c :: r.1 else '\\' :: c :: r.1, r.2)
  | c :: s =>
    if c = mark then ([], s)
    else
      let r := upToMarkChar mark s
      (c :: r.1, r.2)

/-- The choice of lines in front of a change, and the rest. -/
def choiceOf (s : List Char) : LineChoice × List Char :=
  let digits := fun (s : List Char) =>
    ((String.ofList (s.takeWhile Char.isDigit)).toNat?.getD 0, s.dropWhile Char.isDigit)
  match s with
  | '$' :: t => (.last, t)
  | '/' :: t =>
    let (p, rest) := upToMarkChar '/' t
    (.found (.ofString (String.ofList p)), rest)
  | c :: _ =>
    if c.isDigit then
      let (first, t) := digits s
      match t with
      | ',' :: '$' :: t => (.range first (Nat.pow 10 9), t)
      | ',' :: t =>
        let (limit, t) := digits t
        (.range first limit, t)
      | t => (.range first first, t)
    else (.all, s)
  | [] => (.all, [])

/-- The changes that a text writes; the count bounds their number. -/
def changesOf : Nat → List Char → List (LineChoice × LineChange)
  | 0, _ => []
  | n + 1, s =>
    let s := s.dropWhile fun c => c == ' ' || c == ';' || c == '\n'
    let (choice, s) := choiceOf s
    match s.dropWhile (· == ' ') with
    | 's' :: mark :: t =>
      let (pattern, t) := upToMarkChar mark t
      let (new, t) := upToMarkChar mark t
      let flags := t.takeWhile fun c => c != ';' && c != '\n' && c != ' '
      (choice, .replace (.ofString (String.ofList pattern)) new (flags.contains 'g')
        (flags.contains 'p')) :: changesOf n (t.drop flags.length)
    | 'p' :: t => (choice, .shown) :: changesOf n t
    | 'd' :: t => (choice, .dropped) :: changesOf n t
    | 'q' :: t => (choice, .final) :: changesOf n t
    | _ => []

/-- Whether a change is for a line with its number. -/
def LineChoice.fits (c : LineChoice) (line : List Char) (number count : Nat) : Bool :=
  match c with
  | .all => true
  | .range a b => (a ≤ number && number ≤ b) || number = a
  | .last => number = count
  | .found p => p.finds line

/-- The lines that changes make of lines with their numbers. -/
def changedLines (changes : List (LineChoice × LineChange)) (quiet : Bool) (count : Nat) :
    List (List Char × Nat) → List (List Char)
  | [] => []
  | (line, number) :: more =>
    let step := fun (r : List Char × List (List Char) × Bool × Bool)
        (c : LineChoice × LineChange) =>
      let (line, shown, dropped, final) := r
      if dropped || final || !c.1.fits line number count then r
      else
        match c.2 with
        | .replace p new all shows =>
          let (new, any) := p.replace new all (line.length + 1) true line
          (new, if shows && any then shown ++ [new] else shown, dropped, final)
        | .shown => (line, shown ++ [line], dropped, final)
        | .dropped => (line, shown, true, final)
        | .final => (line, shown, dropped, true)
    let (line, shown, dropped, final) := changes.foldl step (line, [], false, false)
    shown ++ (if quiet || dropped then [] else [line]) ++
      if final then [] else changedLines changes quiet count more

/-- The program that changes lines. -/
def changeFilter : List String → Action Nat := fun words => do
  let (options, rest) := lettersOf ['e'] none words
  let scripts := (options.filter fun o => o.1 == 'e').map (·.2)
  let (scripts, paths) := if scripts.isEmpty then (rest.take 1, rest.drop 1) else (scripts, rest)
  let script := (joined "\n" scripts).toList
  let changes := changesOf (script.length + 1) script
  let (text, wasRead) ← textOfFiles ("can't read " ++ ·) paths
  let lines := (byteLines text).map fun l => (textOf (lineBody l)).toList
  let new := changedLines changes (hasLetter options 'n') lines.length (lines.zipIdx 1)
  let closed := text.isEmpty || text.getLast? = some 10
  new.zipIdx.forM fun (line, k) => do
    sayBytes 1 (Utf8.encode line)
    unless !closed && k + 1 = new.length do sayBytes 1 [10]
  return if wasRead then 0 else 2

/-! ### Other forms -/

/-- The program that shows the lines from the last one to the first. -/
def backwardFilter : List String → Action Nat := fun paths => do
  let words := fun path => "failed to open '" ++ path ++ "' for reading"
  let (text, wasRead) ← textOfFiles words paths
  sayBytes 1 (byteLines text).reverse.flatten
  return statusOfReading wasRead

/-- The program that shows the characters of every line backward. -/
def backwardLinesFilter : List String → Action Nat := fun paths => do
  let (text, wasRead) ← textOfFiles id paths
  (byteLines text).forM fun line => do
    sayBytes 1 (Utf8.encode (textOf (lineBody line)).toList.reverse)
    if line.getLast? = some 10 then sayBytes 1 [10]
  return statusOfReading wasRead

/-- The program that writes bytes as letters and digits, or reads them. -/
def base64Filter : List String → Action Nat := fun words => do
  let (options, paths) := lettersOf ['w'] none words
  let (text, wasRead) ← textOfFiles id paths
  if hasLetter options 'd' then
    match Base64.decode ((textOf text).toList.filter (· ≠ '\n')) with
    | .ok bytes =>
      sayBytes 1 bytes
      return statusOfReading wasRead
    | .error _ => do
      sayError ((← get).name ++ ": invalid input\n")
      return 1
  else
    let width := ((letterValue? options 'w').bind (·.toNat?)).getD 76
    let symbols := Base64.encode text
    if width = 0 then sayBytes 1 (Utf8.encode symbols)
    else if !symbols.isEmpty then
      (broken width symbols).forM fun line => sayBytes 1 (Utf8.encode line ++ [10])
    return statusOfReading wasRead

/-- The program that shows digests of texts. -/
def digestFilter : List String → Action Nat := fun words => do
  let (_, paths) := lettersOf [] none words
  let wereRead ← (if paths.isEmpty then ["-"] else paths).mapM fun path => do
    let (text, wasRead) ← textOfFiles id [path]
    if wasRead then say (Digest.text text ++ "  " ++ path ++ "\n")
    return wasRead
  return statusOfReading (wereRead.all id)

/-! ### All filters -/

/-- The program that shows what it reads and keeps it in files. -/
def teeFilter : List String → Action Nat := fun words => do
  let (options, paths) := lettersOf [] none words
  let (text, _) ← textOfFiles id []
  sayBytes 1 text
  paths.foldlM (fun n path => do
    let s ← get
    let old := match s.files.statusOfText path with
      | .ok (.file bytes _) => if hasLetter options 'a' then bytes else []
      | _ => []
    match s.files.writeFile (.ofString path) (old ++ text) with
    | .ok t =>
      set { s with files := t }
      return n
    | .error f => do
      match f with
      | .file f => sayError ("tee: " ++ path ++ ": " ++ f.problem.text ++ "\n")
      | _ => return 1
      return 1) 0

/-- What a filter does. -/
def filter? (name : String) : Option (List String → Action Nat) :=
  match name with
  | "head" => some headFilter
  | "tail" => some tailFilter
  | "cut" => some cutFilter
  | "wc" => some countFilter
  | "sort" => some sortFilter
  | "uniq" => some uniqFilter
  | "tr" => some characterFilter
  | "grep" => some searchFilter
  | "tee" => some teeFilter
  | "sed" => some changeFilter
  | "tac" => some backwardFilter
  | "rev" => some backwardLinesFilter
  | "base64" => some base64Filter
  | "sha256sum" => some digestFilter
  | _ => none

end ProofRelay.Shell
