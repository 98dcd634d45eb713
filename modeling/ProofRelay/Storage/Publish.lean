import ProofRelay.Storage.ObjectUrl
import ProofRelay.World.Activity

/-!
# Publishing files

A file becomes an object of the storage under a name that the caller chooses; the plan of a
block refers to it by that name.

## Main definitions

* `StorageSettings.upload` : a file under a name.
* `StorageSettings.publish` : a file as a public object, with its address.
-/

namespace ProofRelay.StorageSettings

open Activity

/-- The settings that a storage client is made with. -/
def client (s : StorageSettings) : ClientSettings :=
  ⟨s.region, s.accessKey, s.secretKey, s.endpoint⟩

/-- The fault of a file that cannot be sent. -/
def uploadFault (message : String) : Fault :=
  .stage (.of .upload message)

/-- The upload of a file under a name. -/
def upload (s : StorageSettings) (p : Path) (key : String) : Upload :=
  ⟨p.toString, s.bucket, key, s.access⟩

/-- A file as a public object, with its address. -/
def publish (s : StorageSettings) (p : Path) (key : String) : Activity String := do
  if !(← isFileAt p) then
    fail (uploadFault ("cannot upload " ++ p.toString ++ ": not a file"))
  else
    logInfo "storage" ("uploading " ++ p.toString ++ " to s3://" ++ s.bucket.shown ++ "/" ++ key)
    match ← sendFile s.client (s.upload p key) with
    | .refused reason =>
      fail (uploadFault
        ("upload of " ++ key ++ " to bucket " ++ s.bucket.shown ++ " failed: " ++ reason))
    | .broken f => fail f
    | .stored =>
      let url ← ofExcept (s.objectUrl key)
      logInfo "storage" ("published " ++ url)
      return url

end ProofRelay.StorageSettings
