import ProofRelay.Proofs.World.Conduct

/-!
# The faults that an activity ends with

What may go wrong in a run is told apart by who has to answer for it.  A failed stage and a missing
setting are the run's own words; everything else is *bare*: a file operation that was refused, or a
value that an operation cannot work with.  The tools and the storage know neither stages nor
settings, so that what they raise beside their own failures is bare.

`x.Throws P` and `a.Raises P` say of a value and of an activity that every fault it ends with has
the property `P`.  Both follow the way in which values and activities are put together, so that each
operation needs one lemma, made from those of its parts.

## Main definitions

* `Fault.IsBare` : the faults that are neither a failed stage nor a missing setting.
* `Fault.Of` : bare faults, and failed stages of some causes that know no place yet.
* `World.HasBareFaults` : worlds whose tools and storage raise bare faults only.
* `Throws`, `Activity.Raises` : values and activities whose faults have a property.

## Main results

* `Activity.Raises.bind`, `Activity.Raises.onFault`, `Activity.Raises.tryCatch` : the faults of what
  is put together.
* `Activity.Raises.callTool_bind`, `Activity.Raises.sendFile_bind` : questions that come first.
-/

namespace ProofRelay

/-! ### Kinds of faults -/

namespace Fault

/-- The faults that are neither a failed stage nor a missing setting. -/
inductive IsBare : Fault → Prop
  /-- A file operation was refused. -/
  | file (f : FileFault) : IsBare (.file f)
  /-- An operation met a value that it cannot work with. -/
  | defect (kind : Defect) (message : String) : IsBare (.defect kind message)

theorem IsBare.value (message : String) : IsBare (.value message) := .defect _ message

/-- A bare fault, or a failed stage with one of some causes that knows no place yet. -/
inductive Of (causes : Cause → Prop) : Fault → Prop
  /-- The fault is bare. -/
  | bare {f : Fault} (h : f.IsBare) : Of causes f
  /-- A stage failed for one of the causes. -/
  | failed {f : StageFault} (cause : causes f.cause) (block : f.block = none)
      (stage : f.stage = none) : Of causes (.stage f)

variable {causes causes' : Cause → Prop} {f : Fault}

theorem Of.mono (h : Of causes f) (more : ∀ c, causes c → causes' c) : Of causes' f := by
  cases h with
  | bare h => exact .bare h
  | failed cause block stage => exact .failed (more _ cause) block stage

theorem of_of_isBare (f : Fault) (h : f.IsBare) : Of causes f := .bare h

end Fault

/-- A world in which what tools and storage raise beside their own failures is bare. -/
structure World.HasBareFaults (w : World) : Prop where
  /-- A call whose arguments or output cannot be processed. -/
  tools : ∀ cs t c f, (w.tools.reply cs t c).ending = .garbled f → f.IsBare
  /-- An upload that is broken off. -/
  storage : ∀ us u f, w.storage us u = .broken f → f.IsBare

/-- Which faults are raised depends on the outside only. -/
theorem World.HasBareFaults.of_outside {w w' : World} (h : w.HasBareFaults)
    (tools : w'.outside.tools = w.outside.tools)
    (storage : w'.outside.storage = w.outside.storage) : w'.HasBareFaults := by
  refine ⟨?_, ?_⟩
  · rw [World.tools_outside, World.tools_outside] at tools
    rw [tools]
    exact h.tools
  · change w'.storage = w.storage at storage
    rw [storage]
    exact h.storage

/-! ### Values -/

section Values

variable {α β : Type} {P Q : Fault → Prop} {x : Except Fault α}

/-- Whether every fault of a value has a property. -/
def Throws (P : Fault → Prop) (x : Except Fault α) : Prop :=
  ∀ f, x = .error f → P f

theorem Throws.ok (x : α) : Throws P (.ok x) := nofun

theorem Throws.error {f : Fault} (h : P f) : Throws P (.error f : Except Fault α) := by
  rintro _ ⟨⟩
  exact h

theorem Throws.mono (h : Throws P x) (hP : ∀ f, P f → Q f) : Throws Q x :=
  fun f hf => hP f (h f hf)

theorem Throws.bind {g : α → Except Fault β} (h : Throws P x) (hg : ∀ y, Throws P (g y)) :
    Throws P (x >>= g) := by
  cases x with
  | error f => exact .error (h f rfl)
  | ok y => exact hg y

theorem Throws.map {g : α → β} (h : Throws P x) : Throws P (x.map g) := by
  cases x with
  | error f => exact .error (h f rfl)
  | ok y => exact .ok _

theorem Throws.mapM {g : α → Except Fault β} (h : ∀ y, Throws P (g y)) (ys : List α) :
    Throws P (ys.mapM g) := by
  induction ys with
  | nil => exact .ok _
  | cons y ys ih =>
    rw [List.mapM_cons]
    exact .bind (h y) fun _ => .bind ih fun _ => .ok _

end Values

/-! ### Activities -/

namespace Activity

variable {α β : Type} {P Q : Fault → Prop} {a : Activity α} {g : α → Activity β}

/-- Whether every fault of an activity has a property, in each world with bare faults; the world
after it is one of these again. -/
def Raises (P : Fault → Prop) (a : Activity α) : Prop :=
  ∀ w : World, w.HasBareFaults →
    (∀ f, (a.runIn w).1 = .error (.fault f) → P f) ∧ (a.runIn w).2.HasBareFaults

theorem Raises.mono (h : a.Raises P) (hP : ∀ f, P f → Q f) : a.Raises Q :=
  fun w bare => ⟨fun f hf => hP f ((h w bare).1 f hf), (h w bare).2⟩

/-- An activity that cannot fail, in a world whose tools and storage stay the same. -/
theorem Raises.of_ok (ok : ∀ w, ∃ x, (a.runIn w).1 = .ok x)
    (same : ∀ w, (a.runIn w).2.tools = w.tools ∧ (a.runIn w).2.storage = w.storage) :
    a.Raises P := by
  intro w bare
  refine ⟨fun f hf => ?_, bare.of_outside (same w).1 (same w).2⟩
  obtain ⟨x, hx⟩ := ok w
  rw [hx] at hf
  cases hf

theorem Raises.pure (x : α) : Raises P (Pure.pure x : Activity α) :=
  .of_ok (fun _ => ⟨x, rfl⟩) fun _ => ⟨rfl, rfl⟩

theorem Raises.get : Raises P (get : Activity World) :=
  .of_ok (fun w => ⟨w, rfl⟩) fun _ => ⟨rfl, rfl⟩

theorem Raises.log (level : Level) (source message : String) :
    Raises P (log level source message) :=
  .of_ok (fun _ => ⟨(), rfl⟩) fun _ => ⟨rfl, rfl⟩

theorem Raises.now : Raises P now :=
  .of_ok (fun w => ⟨w.clock, rfl⟩) fun _ => ⟨rfl, rfl⟩

theorem Raises.pause (seconds : Float) : Raises P (pause seconds) := by
  have slept : ∀ w, (∃ x, ((ProofRelay.pause seconds).runIn w).1 = .ok x) ∧
      ((ProofRelay.pause seconds).runIn w).2.tools = w.tools ∧
        ((ProofRelay.pause seconds).runIn w).2.storage = w.storage := by
    intro w
    rw [ProofRelay.pause, runIn_bind_ok (runIn_get w)]
    dsimp only
    split <;> exact ⟨⟨_, rfl⟩, rfl, rfl⟩
  exact .of_ok (fun w => (slept w).1) fun w => (slept w).2

theorem Raises.fail {f : Fault} (h : P f) : Raises P (fail f : Activity α) := by
  refine fun w bare => ⟨?_, bare⟩
  rintro _ ⟨⟩
  exact h

theorem Raises.endless : Raises P (endless : Activity α) :=
  fun w bare => ⟨fun f hf => (by cases hf), bare⟩

theorem Raises.ofExcept {x : Except Fault α} (h : Throws P x) : Raises P (ofExcept x) := by
  cases x with
  | error f => exact .fail (h f rfl)
  | ok y => exact .pure y

theorem Raises.bind (h : a.Raises P) (hg : ∀ x, (g x).Raises P) : (a >>= g).Raises P := by
  intro w bare
  obtain ⟨raised, bare'⟩ := h w bare
  rw [runIn_bind]
  cases ran : a.runIn w with
  | mk r w₁ =>
    rw [ran] at raised bare'
    cases r with
    | error i => exact ⟨fun f hf => raised f (by cases hf; rfl), bare'⟩
    | ok x => exact hg x w₁ bare'

/-- What is raised where faults are answered is raised by the answers. -/
theorem Raises.onFault {handle : Fault → Activity α} (h : a.Raises P)
    (handled : ∀ f, P f → (handle f).Raises Q) : (onFault a handle).Raises Q := by
  intro w bare
  obtain ⟨raised, bare'⟩ := h w bare
  rw [runIn_onFault]
  rcases ran : a.runIn w with ⟨(f | _) | x, w₁⟩
  · rw [ran] at raised bare'
    exact handled f (raised f rfl) w₁ bare'
  · rw [ran] at bare'
    exact ⟨fun f hf => (by cases hf), bare'⟩
  · rw [ran] at bare'
    exact ⟨fun f hf => (by cases hf), bare'⟩

/-- What is raised where an interruption is answered is raised by the answers. -/
theorem Raises.tryCatch {handle : Interruption → Activity α} (h : a.Raises P)
    (handled : ∀ i, (∀ f, i = .fault f → P f) → (handle i).Raises Q) :
    (tryCatch a handle).Raises Q := by
  intro w bare
  obtain ⟨raised, bare'⟩ := h w bare
  rw [runIn_tryCatch]
  rcases ran : a.runIn w with ⟨i | x, w₁⟩
  · rw [ran] at raised bare'
    refine handled i (fun f hf => raised f ?_) w₁ bare'
    rw [hf]
  · rw [ran] at bare'
    exact ⟨fun f hf => (by cases hf), bare'⟩

end Activity

/-! ### Questions and files -/

namespace Activity

variable {α : Type} {P : Fault → Prop}

/-- A call of a tool comes first; it ends in a known way, or with a bare fault. -/
theorem Raises.callTool_bind {c : ToolCall} {g : ToolEnding → Activity α}
    (h : ∀ e : ToolEnding, (∀ f, e = .garbled f → f.IsBare) → (g e).Raises P) :
    (callTool c >>= g).Raises P := by
  intro w bare
  have outside := World.outside_afterReply w c (w.tools.reply w.calls w.files c)
  have after : (w.afterReply c (w.tools.reply w.calls w.files c)).HasBareFaults :=
    bare.of_outside (by rw [outside]; rfl) (by rw [outside]; rfl)
  rw [runIn_bind_ok (runIn_callTool c w)]
  exact h _ (bare.tools _ _ c) _ after

/-- A file that is sent gets the storage's answer. -/
theorem runIn_sendFile (settings : ClientSettings) (u : Upload) (w : World) :
    ∃ us w', (sendFile settings u).runIn w = (.ok (w.storage us u), w') ∧ w'.tools = w.tools ∧
      w'.storage = w.storage := by
  rw [sendFile, runIn_bind_ok (runIn_get w)]
  split
  · rw [runIn_bind_ok (runIn_logClient settings u w)]
    exact ⟨_, _, rfl, rfl, rfl⟩
  · rw [runIn_bind_ok (runIn_note _ w), runIn_bind_ok (runIn_logClient settings u _)]
    exact ⟨_, _, rfl, rfl, rfl⟩

/-- A file sent to the storage comes first; the storage answers, or raises a bare fault. -/
theorem Raises.sendFile_bind {settings : ClientSettings} {u : Upload} {g : UploadReply → Activity α}
    (h : ∀ r : UploadReply, (∀ f, r = .broken f → f.IsBare) → (g r).Raises P) :
    (sendFile settings u >>= g).Raises P := by
  intro w bare
  obtain ⟨us, w', run, tools, storage⟩ := runIn_sendFile settings u w
  rw [runIn_bind_ok run]
  exact h _ (bare.storage us u) w' (bare.of_outside tools storage)

/-- What a change of the files raises is its own fault. -/
theorem Raises.changeFiles {change : FileTree → FileTree × Option Fault}
    (h : ∀ t f, (change t).2 = some f → P f) : Raises P (changeFiles change) := by
  intro w bare
  have after : ({ w with files := (change w.files).1 } : World).HasBareFaults :=
    bare.of_outside rfl rfl
  rw [runIn_changeFiles]
  refine ⟨?_, after⟩
  cases refused : (change w.files).2 with
  | none => rintro _ ⟨⟩
  | some f =>
    rintro _ ⟨⟩
    exact h w.files f refused

end Activity

end ProofRelay
