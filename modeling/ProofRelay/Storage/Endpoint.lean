import ProofRelay.Fault
import ProofRelay.Storage.Address
import ProofRelay.Text.Quoted

/-!
# Service addresses

The address of a storage service as an operator writes it, split into a scheme, an authority and
a path.  Without a scheme or without two slashes the host may end up in the path; the callers
take it from there.

## Main definitions

* `Endpoint` : the parts of an address.
* `Endpoint.read` : the parts of a written address.
-/

namespace ProofRelay

open ProofRelay.Text

/-- The parts of a service's address. -/
structure Endpoint where
  /-- The scheme, in lower case; empty when none is written. -/
  scheme : String
  /-- The host with user and port; empty when no two slashes are written. -/
  authority : String
  /-- The path. -/
  path : String
  deriving DecidableEq, Repr

namespace Endpoint

/-- The controls and the space, which are dropped in front of an address. -/
def isControlOrSpace (c : Char) : Bool :=
  c.toNat ≤ 0x20

/-- The characters that are dropped anywhere in an address. -/
def isLineControl (c : Char) : Bool :=
  c == '\t' || c == '\n' || c == '\r'

/-- The characters of a scheme. -/
def isSchemeChar (c : Char) : Bool :=
  c.isAlphanum || c == '+' || c == '-' || c == '.'

/-- An address without the characters that are dropped. -/
def cleaned (s : List Char) : List Char :=
  (s.dropWhile isControlOrSpace).filter (!isLineControl ·)

/-- The text up to the first colon and the text after it, if there is one. -/
def atColon? (s : List Char) : Option (List Char × List Char) :=
  match s.dropWhile (· ≠ ':') with
  | [] => none
  | _ :: rest => some (s.takeWhile (· ≠ ':'), rest)

/-- The scheme of an address and what follows it. -/
def splitScheme (s : List Char) : List Char × List Char :=
  match atColon? s with
  | some (c :: cs, rest) =>
    if c.isAlpha && (c :: cs).all isSchemeChar then ((c :: cs).map Char.toLower, rest)
    else ([], s)
  | _ => ([], s)

/-- Whether a character ends the authority. -/
def endsAuthority (c : Char) : Bool :=
  c == '/' || c == '?' || c == '#'

/-- The authority after two slashes, and what follows it. -/
def splitAuthority : List Char → List Char × List Char
  | '/' :: '/' :: s => (s.takeWhile (!endsAuthority ·), s.dropWhile (!endsAuthority ·))
  | s => ([], s)

/-- The path in front of a query or a fragment. -/
def pathOf (s : List Char) : List Char :=
  (s.takeWhile (· ≠ '#')).takeWhile (· ≠ '?')

/-! ### Checks of the authority -/

/-- The fault of brackets that do not enclose a host. -/
def bracketFault : Fault :=
  .value "Invalid IPv6 URL"

/-- An address of a later protocol between brackets: the letter `v`, a hexadecimal number, a
point and anything else. -/
def isFutureAddress (s : List Char) : Bool :=
  match s with
  | 'v' :: s =>
    let digits := s.takeWhile fun c => (hexValue? c).isSome
    let rest := s.dropWhile fun c => (hexValue? c).isSome
    !digits.isEmpty && rest.head? == some '.' && 2 ≤ rest.length
  | _ => false

/-- The check of a host that is written between brackets. -/
def checkBracketed (host : List Char) : Except Fault Unit :=
  if host.head? = some 'v' then
    if isFutureAddress host then .ok () else .error (.value "IPvFuture address is invalid")
  else if Address.isQuad host then
    .error (.value "An IPv4 address cannot be in brackets")
  else if Address.isGrouped host then .ok ()
  else
    .error (.value (quoted (String.ofList host) ++
      " does not appear to be an IPv4 or IPv6 address"))

/-- The part of an authority after the user. -/
def hostAndPort (s : List Char) : List Char :=
  (s.reverse.takeWhile (· ≠ '@')).reverse

/-- The check of an authority with brackets: nothing in front of them, and behind them nothing
but a port. -/
def checkBrackets (authority : List Char) : Except Fault Unit :=
  let s := hostAndPort authority
  if s.contains '[' then
    let before := s.takeWhile (· ≠ '[')
    let inside := (s.dropWhile (· ≠ '[')).drop 1
    let host := inside.takeWhile (· ≠ ']')
    let port := (inside.dropWhile (· ≠ ']')).drop 1
    if !before.isEmpty then .error bracketFault
    else if !port.isEmpty && port.head? ≠ some ':' then .error bracketFault
    else checkBracketed host
  else checkBracketed (s.takeWhile (· ≠ ':'))

/-- The characters that stand for text with one of the marks that separate the parts of an
address. -/
def disguisedMarks : List Nat :=
  [0x2047, 0x2048, 0x2049, 0x2100, 0x2101, 0x2105, 0x2106, 0x2a74, 0xfe13, 0xfe16, 0xfe55,
    0xfe56, 0xfe5f, 0xfe6b, 0xff03, 0xff0f, 0xff1a, 0xff1f, 0xff20]

/-- The checks of an authority. -/
def checkAuthority (authority : List Char) : Except Fault Unit :=
  let opened := authority.contains '['
  let closed := authority.contains ']'
  if opened != closed then .error bracketFault
  else if opened then checkBrackets authority
  else .ok ()

/-- The check that no character of an authority stands for a separating mark. -/
def checkMarks (authority : List Char) : Except Fault Unit :=
  if authority.any fun c => disguisedMarks.contains c.toNat then
    .error (.value ("netloc '" ++ String.ofList authority ++
      "' contains invalid characters under NFKC normalization"))
  else .ok ()

/-- The parts of a written address. -/
def read (address : String) : Except Fault Endpoint := do
  let (scheme, rest) := splitScheme (cleaned address.toList)
  let (authority, rest) := splitAuthority rest
  checkAuthority authority
  checkMarks authority
  return ⟨String.ofList scheme, String.ofList authority, String.ofList (pathOf rest)⟩

end Endpoint

end ProofRelay
