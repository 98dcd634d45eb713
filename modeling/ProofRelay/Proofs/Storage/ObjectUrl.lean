import ProofRelay.Proofs.Text.Percent
import ProofRelay.Settings.Basic

/-!
# Addresses tell objects apart

The address of an object has two parts: one that all objects share, which ends with a slash, and
the encoded name.  There is a first part for a public address, for the address of a service that
can be read, and for neither of the two; it is missing only where a setting is no text, or the
address of the service is none.  Since names are encoded exactly, an address has the name of its
object in it, slash by slash.

## Main definitions

* `StorageSettings.IsAddressable` : settings from which addresses are made.
* `StorageSettings.TellsApart` : what an address says of its object.

## Main results

* `StorageSettings.getLast?_urlBase` : the end of the first part of addresses.
* `StorageSettings.tellsApart_iff` : addresses tell objects apart wherever they are made.
-/

namespace ProofRelay.StorageSettings

open ProofRelay.Text

variable {s : StorageSettings} {base : String}

/-! ### The first part of an address -/

/-- Settings from which addresses are made. -/
inductive IsAddressable (s : StorageSettings) : Prop where
  /-- A public address, which is a text. -/
  | published {url : Json} {text : String} (set : s.publicUrl.given? = some url)
    (written : url.text? = some text)
  /-- No public address, and an address of the service that can be read. -/
  | hosted {address : Json} {text : String} {e : Endpoint} (unset : s.publicUrl.given? = none)
    (set : s.endpoint.given? = some address) (written : address.text? = some text)
    (read : Endpoint.read text = .ok e)
  /-- Neither of the two. -/
  | unset (unset : s.publicUrl.given? = none) (standard : s.endpoint.given? = none)

/-- The address of a service can be read where it is a text that can be. -/
theorem serviceAt_eq_ok_iff (address : Json) (e : Endpoint) :
    serviceAt address = .ok e ↔ ∃ text, address.text? = some text ∧ Endpoint.read text = .ok e := by
  cases address with
  | str text => exact ⟨fun h => ⟨text, rfl, h⟩, by rintro ⟨_, ⟨⟩, h⟩; exact h⟩
  | torn ps => exact ⟨fun h => ⟨_, rfl, h⟩, by rintro ⟨_, ⟨⟩, h⟩; exact h⟩
  | _ => exact ⟨nofun, by rintro ⟨_, ⟨⟩, _⟩⟩

theorem exists_urlBase (h : s.IsAddressable) : ∃ base, s.urlBase = .ok base := by
  rw [urlBase]
  cases h with
  | published set written =>
    rw [set]
    dsimp only
    rw [underPublicUrl, written]
    exact ⟨_, rfl⟩
  | hosted unset set written read =>
    rw [unset, set]
    dsimp only
    rw [(serviceAt_eq_ok_iff _ _).mpr ⟨_, written, read⟩]
    exact ⟨_, rfl⟩
  | unset unset standard =>
    rw [unset, standard]
    exact ⟨_, rfl⟩

theorem isAddressable_of_urlBase (h : s.urlBase = .ok base) : s.IsAddressable := by
  rw [urlBase] at h
  split at h
  · next url set =>
    cases written : url.text? with
    | none => rw [underPublicUrl, written] at h; cases h
    | some text => exact .published set written
  · next unset standard => exact .unset unset standard
  · next address unset set =>
    cases found : serviceAt address with
    | error f => rw [found] at h; cases h
    | ok e =>
      obtain ⟨text, written, read⟩ := (serviceAt_eq_ok_iff _ _).mp found
      exact .hosted unset set written read

theorem getLast?_append_of_slash {ending : String} (h : ending.toList.getLast? = some '/')
    (t : String) : (t ++ ending).toList.getLast? = some '/' := by
  rw [String.toList_append, List.getLast?_append, h]
  rfl

/-- The first part of addresses ends with a slash. -/
theorem getLast?_urlBase (h : s.urlBase = .ok base) : base.toList.getLast? = some '/' := by
  have slash : "/".toList.getLast? = some '/' := rfl
  rw [urlBase] at h
  split at h
  · rw [underPublicUrl] at h
    split at h
    · cases h
      exact getLast?_append_of_slash slash _
    · cases h
  · cases h
    exact getLast?_append_of_slash (by decide) _
  · next address _ _ =>
    cases found : serviceAt address with
    | error f => rw [found] at h; cases h
    | ok e =>
      rw [found] at h
      cases h
      exact getLast?_append_of_slash slash _

/-! ### Addresses -/

/-- What an address says of its object: a first part that is the same for all objects and ends with
a slash, and behind it the name of the object. -/
structure TellsApart (s : StorageSettings) (base : String) : Prop where
  /-- The first part ends with a slash. -/
  slash : base.toList.getLast? = some '/'
  /-- Behind it stand plain characters and escapes, which decode to the name; what stands between
  two slashes decodes to what stands between the slashes of the name. -/
  name : ∀ key : String, ∃ path, s.objectUrl key = .ok (base ++ String.ofList path) ∧
    Percent.Escaped path ∧ Percent.decode? path = some key.toList ∧
      (pieces '/' path).map Percent.decode? = (pieces '/' key.toList).map some
  /-- No two objects have the same address. -/
  apart : ∀ key key' : String, s.objectUrl key = s.objectUrl key' → key = key'

theorem objectUrl_of_urlBase (h : s.urlBase = .ok base) (key : String) :
    s.objectUrl key = .ok (base ++ String.ofList (Percent.encode key.toList)) := by
  rw [objectUrl, h]
  rfl

theorem decode?_pieces_encode (key : List Char) :
    (pieces '/' (Percent.encode key)).map Percent.decode? = (pieces '/' key).map some := by
  rw [Percent.pieces_encode, List.map_map]
  exact List.map_congr_left fun p _ => Percent.decode?_encode p

/-- Wherever addresses are made, and nowhere else, they tell objects apart. -/
theorem tellsApart_iff (s : StorageSettings) : (∃ base, s.TellsApart base) ↔ s.IsAddressable := by
  constructor
  · rintro ⟨base, tells⟩
    obtain ⟨path, made, -⟩ := tells.name ""
    cases found : s.urlBase with
    | error f => rw [objectUrl, found] at made; cases made
    | ok base => exact isAddressable_of_urlBase found
  · intro h
    obtain ⟨base, found⟩ := exists_urlBase h
    have url := objectUrl_of_urlBase found
    refine ⟨base, getLast?_urlBase found, fun key => ?_, fun key key' same => ?_⟩
    · exact ⟨_, url key, Percent.escaped_encode _, Percent.decode?_encode _,
        decode?_pieces_encode _⟩
    · rw [url key, url key', Except.ok.injEq, String.append_right_inj, String.ofList_inj] at same
      exact String.toList_inj.mp (Percent.encode_inj same)

/-- A name with what needs an escape, and with slashes, under a public address. -/
example :
    ({ Settings.standardStorage with publicUrl := .str "https://cdn.example.org/w//" }.objectUrl
      "/a b/é%2F?#~").toOption = some "https://cdn.example.org/w//a%20b/%C3%A9%252F%3F%23~" := by
  decide +kernel

end ProofRelay.StorageSettings
