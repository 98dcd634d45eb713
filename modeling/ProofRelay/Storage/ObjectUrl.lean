import ProofRelay.Json.Access
import ProofRelay.Json.Display
import ProofRelay.Storage.Endpoint
import ProofRelay.Text.Blank
import ProofRelay.Text.Percent

/-!
# Addresses of objects

Where an object of the storage can be fetched: under a public address when one is set, and
otherwise under a host named for the bucket.

## Main definitions

* `StorageSettings` : the settings of the object storage.
* `StorageSettings.objectUrl` : the address of an object.
* `StorageSettings.urlOf` : the same for a name that is a value of any kind.
-/

namespace ProofRelay

open ProofRelay.Text

/-- The settings of the object storage, each a value of any kind. -/
structure StorageSettings where
  /-- The address of the service. -/
  endpoint : Json
  /-- The bucket. -/
  bucket : Json
  /-- The region. -/
  region : Json
  /-- The name of the credentials. -/
  accessKey : Json
  /-- The secret of the credentials. -/
  secretKey : Json
  /-- Who may read the objects. -/
  access : Json
  /-- The address under which objects are public. -/
  publicUrl : Json
  deriving DecidableEq, Repr

namespace StorageSettings

/-- The address of an object under a public address, without the object's name. -/
def underPublicUrl (url : Json) : Except Fault String :=
  match url.text? with
  | some s => .ok (dropEndWhile (· == '/') s ++ "/")
  | none => url.lacks "rstrip"

/-- The service's address that a value writes.  A list or an object cannot be looked up among the
addresses that are known already; any other value that is no text has no bytes to decode. -/
def serviceAt (address : Json) : Except Fault Endpoint :=
  match address with
  | .arr _ | .obj _ => Json.mismatch ("unhashable type: '" ++ address.kindName ++ "'")
  | v =>
    match v.text? with
    | some s => Endpoint.read s
    | none => v.lacks "decode"

/-- The address under a host that is named for the bucket, without the object's name. -/
def underHost (bucket : String) (e : Endpoint) : String :=
  let scheme := if e.scheme.isEmpty then "https" else e.scheme
  let host := if e.authority.isEmpty then e.path else e.authority
  scheme ++ "://" ++ bucket ++ "." ++ host ++ "/"

/-- The address without the object's name, which ends with a slash. -/
def urlBase (s : StorageSettings) : Except Fault String :=
  match s.publicUrl.given?, s.endpoint.given? with
  | some url, _ => underPublicUrl url
  | none, none => .ok ("https://" ++ s.bucket.shown ++ ".s3.amazonaws.com/")
  | none, some address => (serviceAt address).map (underHost s.bucket.shown)

/-- The address of an object. -/
def objectUrl (s : StorageSettings) (key : String) : Except Fault String :=
  s.urlBase.map (· ++ String.ofList (Percent.encode key.toList))

/-- The address of an object whose name is a value of any kind: only a text has bytes, and half of
a surrogate pair in it has none. -/
def urlOf (s : StorageSettings) : Json → Except Fault String
  | .str key => s.objectUrl key
  | .torn ps => .error (.defect .encoding (Utf8.halvesMessage isHalf ps))
  | _ => Json.mismatch "quote_from_bytes() expected bytes"

end StorageSettings

end ProofRelay
