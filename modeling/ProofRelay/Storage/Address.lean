import ProofRelay.Text.Hex
import ProofRelay.Text.Lines

/-!
# Numeric host addresses

The written forms of the addresses of the two internet protocols: four decimal octets, and eight
groups of hexadecimal digits of which one run of zero groups may be left out.

## Main definitions

* `isQuad` : the form with four octets.
* `isGrouped` : the form with eight groups.
-/

namespace ProofRelay.Address

open ProofRelay.Text

/-- A decimal octet: at most three digits without a leading zero. -/
def isOctet (s : List Char) : Bool :=
  !s.isEmpty && s.all Char.isDigit && s.length ≤ 3 && (s == ['0'] || s.head? != some '0') &&
    s.foldl (fun n c => 10 * n + (c.toNat - 48)) 0 ≤ 255

/-- Four octets with points between them. -/
def isQuad (s : List Char) : Bool :=
  let parts := pieces '.' s
  parts.length == 4 && parts.all isOctet

/-- A group of at most four hexadecimal digits. -/
def isGroup (s : List Char) : Bool :=
  !s.isEmpty && s.all (fun c => (hexValue? c).isSome) && s.length ≤ 4

/-- Groups of which one run is left out: the groups before and after the gap, where an end of
the address next to the gap is empty. -/
def isGapped (before after : List (List Char)) : Bool :=
  let before := if before.head? == some [] then before.drop 1 else before
  let after := if after.getLast? == some [] then after.dropLast else after
  before.all isGroup && after.all isGroup && before.length + after.length < 8

/-- The places between the first and the last part at which a part is empty. -/
def gaps (parts : List (List Char)) : List Nat :=
  (List.range parts.length).filter fun i =>
    0 < i && i + 1 < parts.length && parts[i]? == some []

/-- Whether the parts between the colons make up an address. -/
def isGroups (parts : List (List Char)) : Bool :=
  3 ≤ parts.length && parts.length ≤ 9 &&
    match gaps parts with
    | [] => parts.length == 8 && parts.all isGroup
    | [i] =>
      let before := parts.take i
      let after := parts.drop (i + 1)
      let leading := before.head? == some [] && before.length ≠ 1
      let trailing := after.getLast? == some [] && after.length ≠ 1
      !leading && !trailing && isGapped before after
    | _ => false

/-- An address without a zone, of which the last two groups may be written as four octets. -/
def isPlainGrouped (s : List Char) : Bool :=
  let parts := pieces ':' s
  match parts.getLast? with
  | none => false
  | some last =>
    if last.contains '.' then
      3 ≤ parts.length && isQuad last && isGroups (parts.dropLast ++ [['0'], ['0']])
    else isGroups parts

/-- An address, which may be followed by a percent sign and a zone. -/
def isGrouped (s : List Char) : Bool :=
  match pieces '%' s with
  | [a] => isPlainGrouped a
  | [a, zone] => !zone.isEmpty && isPlainGrouped a
  | _ => false

end ProofRelay.Address
