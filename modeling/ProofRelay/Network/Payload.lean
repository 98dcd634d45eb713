import ProofRelay.Fault
import ProofRelay.Json.Reader
import ProofRelay.Text.Base64
import ProofRelay.Text.Utf8

/-!
# Verification payloads

The network's tool prints the output of a transaction as a JSON list of entries, each with a
kind and data in base 64.  The data of the verification entries, in order, make up the payload.
Nothing at all, and the value `null`, stand for a payload that is not there yet.

## Main definitions

* `Payload.verificationKind` : the kind of the entries that count.
* `Payload.ofOutput` : the payload of an output.
-/

namespace ProofRelay.Payload

open ProofRelay.Text

/-- The kind of the entries that count. -/
def verificationKind : String := "Verification"

/-- An output of another shape. -/
def unexpected {α : Type} (output message : String) : Except Fault α :=
  .error (.stage (.withOutput .output message output))

/-- The data of an entry that counts; missing and empty data are no characters. -/
def data? (entry : Json) : Option Json :=
  match entry.field? "kind" with
  | some (.str k) =>
    if k = verificationKind then
      match entry.field? "data" with
      | some v => some (if v.isFalsy then .str "" else v)
      | none => some (.str "")
    else none
  | _ => none

/-- The bytes of the data of an entry. -/
def chunk (output : String) (v : Json) : Except Fault (List UInt8) :=
  match v.text? with
  | some s =>
    match Base64.decode s.toList with
    | .ok bytes => .ok bytes
    | .error e => unexpected output ("verification data is not base64: " ++ e.message)
  | none =>
    .error (.defect .mismatch
      ("argument should be a bytes-like object or ASCII string, not '" ++ v.kindName ++ "'"))

/-- The bytes of the entries that count, one after the other. -/
def chunks (output : String) : List Json → Except Fault (List UInt8)
  | [] => .ok []
  | entry :: entries =>
    match data? entry with
    | none => chunks output entries
    | some v =>
      match chunk output v with
      | .error e => .error e
      | .ok bytes => (chunks output entries).map (bytes ++ ·)

/-- The text of the bytes of a payload. -/
def ofBytes (output : String) (bytes : List UInt8) : Except Fault String :=
  match Utf8.toString? bytes with
  | .ok s => .ok s
  | .error e => unexpected output ("verification payload is not UTF-8: " ++ e.message)

/-- The payload of the entries of an output. -/
def ofEntries (output : String) : Json → Except Fault String
  | .null => .ok ""
  | .arr entries => (chunks output entries).bind (ofBytes output)
  | _ => unexpected output "execution output is not a JSON array"

/-- The payload of an output. -/
def ofOutput (output : String) : Except Fault String :=
  let document := trim output.toList
  if document.isEmpty then .ok ""
  else
    match Json.readChars document with
    | .ok v => ofEntries output v
    | .error e =>
      let message := e.message document
      if e.isOfForm then unexpected output ("execution output is not JSON: " ++ message)
      else .error (.value message)

end ProofRelay.Payload
