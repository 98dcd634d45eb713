import Mathlib.Data.List.Forall2
import ProofRelay.Proofs.World.Conduct

/-!
# Masked keys

The two keys of the object storage go to the client that sends the files, and the journal keeps
what each client was made with.  Nothing else in a world holds a key.  Two worlds are *alike* when
they are equal but for the keys in their journals.  A *mask* writes one and the same text over these
keys, so that alike worlds are those that are equal under the mask.

What a run can ask of the journal is what was called and sent, how often the head of the chain was
read, and whether there is a client; none of this is changed by a mask.  The client itself may write
to the log.  It is *discreet* when what it writes does not depend on the keys.

## Main definitions

* `World.Alike` : worlds that are equal but for the keys in their journals.
* `Event.masked`, `World.masked` : entries and worlds under the mask.
* `World.HasDiscreetClient` : the client writes the same under the mask.

## Main results

* `World.alike_iff` : alike worlds are equal under the mask.
* `World.calls_masked`, `World.uploads_masked`, `World.headReads_masked`, `World.hasClient_masked` :
  what a run can ask of the journal.
-/

namespace ProofRelay

/-! ### Worlds that are alike -/

/-- Whether two clients are made with the same settings but for the keys. -/
structure ClientSettings.Alike (c c' : ClientSettings) : Prop where
  /-- The region. -/
  region : c'.region = c.region
  /-- The address of the service. -/
  endpoint : c'.endpoint = c.endpoint

/-- Whether two entries of journals are the same but for the keys of a client. -/
inductive Event.Alike : Event → Event → Prop
  /-- They are the same. -/
  | same (e : Event) : Alike e e
  /-- A client is made in both. -/
  | client {c c' : ClientSettings} (alike : c.Alike c') : Alike (.client c) (.client c')

/-- Whether two worlds are equal but for the keys in their journals. -/
structure World.Alike (w w' : World) : Prop where
  /-- The files. -/
  files : w'.files = w.files
  /-- The variables of the environment. -/
  environment : w'.environment = w.environment
  /-- What the system knows. -/
  host : w'.host = w.host
  /-- The paths to which access is denied. -/
  denied : w'.denied = w.denied
  /-- The time. -/
  clock : w'.clock = w.clock
  /-- The request to stop. -/
  stop : w'.stop = w.stop
  /-- The tools. -/
  tools : w'.tools = w.tools
  /-- The object storage. -/
  storage : w'.storage = w.storage
  /-- The storage client. -/
  clientLines : w'.clientLines = w.clientLines
  /-- The chain. -/
  chain : w'.chain = w.chain
  /-- The job that was started last. -/
  job : w'.job = w.job
  /-- The journals, entry by entry. -/
  journal : List.Forall₂ Event.Alike w.journal w'.journal

/-! ### The mask -/

/-- The text in the place of a key. -/
def keyMask : Json := .str "***"

/-- The settings of a client under the mask. -/
def ClientSettings.masked (c : ClientSettings) : ClientSettings :=
  { c with accessKey := keyMask, secretKey := keyMask }

/-- An entry of the journal under the mask. -/
def Event.masked : Event → Event
  | .client c => .client c.masked
  | e => e

/-- A world under the mask. -/
def World.masked (w : World) : World :=
  { w with journal := w.journal.map Event.masked }

/-- Whether the lines that the storage client itself writes to the log do not depend on its keys; a
client that writes none is of this kind. -/
def World.HasDiscreetClient (w : World) : Prop :=
  ∀ settings u, w.clientLines settings.masked u = w.clientLines settings u

/-- Only a client is changed by the mask. -/
theorem Event.masked_of_ne {e : Event} (h : ∀ c, e ≠ .client c) : e.masked = e := by
  cases e with
  | client c => exact absurd rfl (h c)
  | _ => rfl

/-- Under the mask only a client is a client. -/
theorem Event.exists_of_masked_eq {e : Event} {c : ClientSettings} (h : e.masked = .client c) :
    ∃ c', e = .client c' := by
  cases e with
  | client c' => exact ⟨c', rfl⟩
  | _ => cases h

theorem Event.alike_iff {e e' : Event} : e.Alike e' ↔ e.masked = e'.masked := by
  constructor
  · rintro (_ | ⟨region, endpoint⟩)
    · rfl
    · rw [masked, masked, ClientSettings.masked, ClientSettings.masked, region, endpoint]
  · intro same
    by_cases made : ∃ c, e = .client c
    · obtain ⟨c, rfl⟩ := made
      obtain ⟨c', rfl⟩ := exists_of_masked_eq same.symm
      obtain ⟨region, -, -, endpoint⟩ := ClientSettings.mk.inj (Event.client.inj same)
      exact .client ⟨region.symm, endpoint.symm⟩
    · have unmade : ∀ c, e ≠ .client c := fun c h => made ⟨c, h⟩
      have unmade' : ∀ c, e' ≠ .client c := by
        rintro c rfl
        exact made (exists_of_masked_eq same)
      rw [masked_of_ne unmade, masked_of_ne unmade'] at same
      rw [same]
      exact .same _

theorem Event.forall₂_alike_iff {l l' : List Event} :
    List.Forall₂ Alike l l' ↔ l.map masked = l'.map masked := by
  rw [← List.forall₂_eq_eq_eq, List.forall₂_map_left_iff, List.forall₂_map_right_iff]
  exact ⟨fun h => h.imp fun _ _ => alike_iff.mp, fun h => h.imp fun _ _ => alike_iff.mpr⟩

/-- Alike worlds are equal under the mask. -/
theorem World.alike_iff {w w' : World} : w.Alike w' ↔ w.masked = w'.masked := by
  constructor
  · rintro ⟨files, environment, host, denied, clock, stop, tools, storage, clientLines, chain, job,
      journal⟩
    rw [masked, masked, files, environment, host, denied, clock, stop, tools, storage, clientLines,
      chain, job, Event.forall₂_alike_iff.mp journal]
  · intro same
    exact ⟨(congrArg World.files same).symm, (congrArg World.environment same).symm,
      (congrArg World.host same).symm, (congrArg World.denied same).symm,
      (congrArg World.clock same).symm, (congrArg World.stop same).symm,
      (congrArg World.tools same).symm, (congrArg World.storage same).symm,
      (congrArg World.clientLines same).symm, (congrArg World.chain same).symm,
      (congrArg World.job same).symm,
      Event.forall₂_alike_iff.mpr (congrArg World.journal same)⟩

/-! ### What the mask leaves -/

namespace World

variable (w : World)

/-- No line of the client is changed by the mask. -/
theorem masked_withLines_map_entry (lines : List ClientLine) :
    (w.withLines (lines.map ClientLine.entry).reverse).masked =
      w.masked.withLines (lines.map ClientLine.entry).reverse := by
  have same : (lines.map ClientLine.entry).reverse.map Event.masked =
      (lines.map ClientLine.entry).reverse := by
    simp [ClientLine.entry, Event.masked]
  simp only [masked, withLines, List.map_append, same]

@[simp] theorem calls_masked : w.masked.calls = w.calls := by
  rw [calls, calls, masked, List.filterMap_map]
  congr 1
  funext e
  cases e <;> rfl

@[simp] theorem uploads_masked : w.masked.uploads = w.uploads := by
  rw [uploads, uploads, masked, List.filterMap_map]
  congr 1
  funext e
  cases e <;> rfl

@[simp] theorem headReads_masked : w.masked.headReads = w.headReads := by
  rw [headReads, headReads, masked, List.countP_map]
  congr 1
  funext e
  cases e <;> rfl

@[simp] theorem hasClient_masked : w.masked.hasClient = w.hasClient := by
  rw [hasClient, hasClient, masked, List.any_map]
  congr 1
  funext e
  cases e <;> rfl

end World

end ProofRelay
