import ProofRelay.Proofs.World.Masking

/-!
# Activities in step

All that a run does is put together from a few kinds of steps: it looks at the world, notes an entry
in the journal or changes something else about the world, changes files, lets the storage client
write to the log, and spends a delay.  None of its steps changes the variables of the environment or
the client, and none depends on a key in the journal.

Two activities are *in step* when they are put together in the same way, and the second one has the
mask where the first one has keys.  Then the second one does in a masked world what the first one
does without the mask, as long as the client is discreet: it gives the same, and leaves the same
world under the mask.

## Main definitions

* `Activity.InStep` : activities that are put together in the same way.
* `Activity.Stays` : activities that leave the variables and the client as they are.
* `Activity.MasksTo` : activities of which one is the other one under the mask.

## Main results

* `Activity.InStep.stays` : activities in step leave the variables and the client as they are.
* `Activity.InStep.masksTo` : activities in step do the same under the mask.
* `callTool_inStep`, `sendFile_inStep`, `askHead_inStep` : the questions of a run.
-/

namespace ProofRelay

open Activity

namespace Activity

variable {α β : Type} {a b : Activity α} {f g : α → Activity β}

/-- Activities that are put together in the same way, of which the second one has the mask in the
place of keys. -/
inductive InStep : {α : Type} → Activity α → Activity α → Prop
  /-- Nothing is done. -/
  | pure {α : Type} (x : α) : InStep (pure x : Activity α) (pure x)
  /-- It ends without a result. -/
  | throw {α : Type} (i : Interruption) : InStep (throw i : Activity α) (throw i)
  /-- The world is looked at. -/
  | look {α : Type} {f g : World → Activity α} (h : ∀ w, InStep (f w) (g w.masked)) :
      InStep (get >>= f) (get >>= g)
  /-- The world is changed, but not its variables, nor the client. -/
  | change {f g : World → World} (masked : ∀ w, g w.masked = (f w).masked)
      (stays : ∀ w, (f w).environment = w.environment ∧ (f w).clientLines = w.clientLines) :
      InStep (modify f) (modify g)
  /-- The storage client writes to the log. -/
  | logClient (settings : ClientSettings) (u : Upload) :
      InStep (logClient settings u) (logClient settings.masked u)
  /-- Files are changed. -/
  | files (change : FileTree → FileTree × Option Fault) :
      InStep (changeFiles change) (changeFiles change)
  /-- A delay is spent. -/
  | pause (seconds : Float) : InStep (pause seconds) (pause seconds)
  /-- One comes after another. -/
  | bind {α β : Type} {a b : Activity α} {f g : α → Activity β} (first : InStep a b)
      (next : ∀ x, InStep (f x) (g x)) : InStep (a >>= f) (b >>= g)
  /-- An interruption is answered. -/
  | tryCatch {α : Type} {a b : Activity α} {handle handle' : Interruption → Activity α}
      (first : InStep a b) (handled : ∀ i, InStep (handle i) (handle' i)) :
      InStep (tryCatch a handle) (tryCatch b handle')

/-! ### What is put together -/

theorem InStep.fail (e : Fault) : (fail e : Activity α).InStep (Activity.fail e) := .throw _

theorem InStep.endless : (endless : Activity α).InStep Activity.endless := .throw _

theorem InStep.ofExcept (x : Except Fault α) : (ofExcept x).InStep (Activity.ofExcept x) := by
  cases x with
  | ok x => exact .pure x
  | error e => exact .fail e

theorem InStep.note (e : Event) : (note e).InStep (ProofRelay.note e.masked) :=
  .change (fun _ => rfl) fun _ => ⟨rfl, rfl⟩

theorem InStep.log (level : Level) (source message : String) :
    (log level source message).InStep (ProofRelay.log level source message) :=
  .note (.log level source message)

theorem InStep.map {h : α → β} (first : a.InStep b) : (h <$> a).InStep (h <$> b) := by
  rw [map_eq_pure_bind, map_eq_pure_bind]
  exact .bind first fun _ => .pure _

theorem InStep.onFault {handle handle' : Fault → Activity α} (first : a.InStep b)
    (handled : ∀ e, (handle e).InStep (handle' e)) :
    (onFault a handle).InStep (Activity.onFault b handle') := by
  refine .tryCatch first fun i => ?_
  cases i with
  | fault e => exact handled e
  | endless => exact .endless

theorem InStep.attempt (first : a.InStep b) : (attempt a).InStep (Activity.attempt b) :=
  .onFault first.map fun _ => .pure _

/-! ### What stays -/

/-- Whether an activity leaves the variables of the environment and the storage client as they
are. -/
def Stays (a : Activity α) : Prop :=
  ∀ w, (a.runIn w).2.environment = w.environment ∧ (a.runIn w).2.clientLines = w.clientLines

theorem Stays.bind (h : a.Stays) (hf : ∀ x, (f x).Stays) : (a >>= f).Stays := by
  intro w
  have first := h w
  rw [runIn_bind]
  rcases ran : a.runIn w with ⟨_ | x, w₁⟩ <;> rw [ran] at first
  · exact first
  · exact ⟨(hf x w₁).1.trans first.1, (hf x w₁).2.trans first.2⟩

theorem Stays.tryCatch {handle : Interruption → Activity α} (h : a.Stays)
    (handled : ∀ i, (handle i).Stays) : (tryCatch a handle).Stays := by
  intro w
  have first := h w
  rw [runIn_tryCatch]
  rcases ran : a.runIn w with ⟨i | x, w₁⟩ <;> rw [ran] at first
  · exact ⟨(handled i w₁).1.trans first.1, (handled i w₁).2.trans first.2⟩
  · exact first

theorem pause_stays (seconds : Float) : (pause seconds).Stays := by
  intro w
  rw [pause, runIn_bind_ok (runIn_get w)]
  dsimp only
  split <;> exact ⟨rfl, rfl⟩

/-- What is put together from the steps of a run leaves the variables and the client as they are. -/
theorem InStep.stays (h : a.InStep b) : a.Stays := by
  induction h with
  | pure x => exact fun _ => ⟨rfl, rfl⟩
  | throw i => exact fun _ => ⟨rfl, rfl⟩
  | look _ ih => exact fun w => ih w w
  | change _ stays => exact stays
  | logClient settings u =>
    intro w
    rw [runIn_logClient]
    exact ⟨rfl, rfl⟩
  | files change =>
    intro w
    rw [runIn_changeFiles]
    exact ⟨rfl, rfl⟩
  | pause seconds => exact pause_stays seconds
  | bind _ _ first next => exact first.bind next
  | tryCatch _ _ first handled => exact first.tryCatch handled

/-! ### Under the mask -/

/-- Whether an activity, begun in a masked world with a discreet client, does what another one does
without the mask: it gives the same, and leaves the same world under the mask. -/
def MasksTo (a b : Activity α) : Prop :=
  ∀ w : World, w.HasDiscreetClient → b.runIn w.masked = ((a.runIn w).1, (a.runIn w).2.masked)

/-- A client stays discreet. -/
theorem Stays.hasDiscreetClient (h : a.Stays) {w w₁ : World} {r : Except Interruption α}
    (discreet : w.HasDiscreetClient) (run : a.runIn w = (r, w₁)) : w₁.HasDiscreetClient := by
  have client := (h w).2
  rw [run] at client
  rwa [World.HasDiscreetClient, client]

theorem MasksTo.bind (stays : a.Stays) (first : a.MasksTo b) (next : ∀ x, (f x).MasksTo (g x)) :
    (a >>= f).MasksTo (b >>= g) := by
  intro w discreet
  have began := first w discreet
  rw [runIn_bind, runIn_bind, began]
  rcases ran : a.runIn w with ⟨_ | x, w₁⟩
  · rfl
  · exact next x w₁ (stays.hasDiscreetClient discreet ran)

theorem MasksTo.tryCatch {handle handle' : Interruption → Activity α} (stays : a.Stays)
    (first : a.MasksTo b) (handled : ∀ i, (handle i).MasksTo (handle' i)) :
    (tryCatch a handle).MasksTo (MonadExcept.tryCatch b handle') := by
  intro w discreet
  have began := first w discreet
  rw [runIn_tryCatch, runIn_tryCatch, began]
  rcases ran : a.runIn w with ⟨i | x, w₁⟩
  · exact handled i w₁ (stays.hasDiscreetClient discreet ran)
  · rfl

theorem logClient_masksTo (settings : ClientSettings) (u : Upload) :
    (logClient settings u).MasksTo (logClient settings.masked u) := by
  intro w discreet
  have said : w.masked.clientLines settings.masked u = w.clientLines settings u :=
    discreet settings u
  rw [runIn_logClient, runIn_logClient, said, World.masked_withLines_map_entry]

theorem changeFiles_masksTo (change : FileTree → FileTree × Option Fault) :
    (changeFiles change).MasksTo (changeFiles change) := by
  intro w _
  rw [runIn_changeFiles, runIn_changeFiles]
  rfl

theorem pause_masksTo (seconds : Float) : (pause seconds).MasksTo (pause seconds) := by
  intro w _
  rw [pause, runIn_bind_ok (runIn_get _), runIn_bind_ok (runIn_get _)]
  have same : Pause.under w.masked.stop w.masked.clock seconds =
      Pause.under w.stop w.clock seconds := rfl
  dsimp only
  rw [same]
  split <;> rfl

/-- Activities in step do the same under the mask. -/
theorem InStep.masksTo (h : a.InStep b) : a.MasksTo b := by
  induction h with
  | pure x => exact fun _ _ => rfl
  | throw i => exact fun _ _ => rfl
  | look _ ih =>
    intro w discreet
    rw [runIn_bind_ok (runIn_get _), runIn_bind_ok (runIn_get _)]
    exact ih w w discreet
  | change masked _ =>
    intro w _
    rw [runIn_modify, runIn_modify, masked]
  | logClient settings u => exact logClient_masksTo settings u
  | files change => exact changeFiles_masksTo change
  | pause seconds => exact pause_masksTo seconds
  | bind inStep _ first next => exact first.bind inStep.stays next
  | tryCatch inStep _ first handled => exact first.tryCatch inStep.stays handled

end Activity

/-! ### Single steps -/

theorem print_inStep (text : String) : (print text).InStep (print text) := .note (.out _)

theorem complain_inStep (text : String) : (complain text).InStep (complain text) := .note (.err _)

theorem draw_inStep (lines : List String) : (draw lines).InStep (draw lines) := .note (.drawn _)

theorem now_inStep : now.InStep now := .look fun _ => .pure _

theorem stopRequested_inStep : stopRequested.InStep stopRequested := .look fun _ => .pure _

theorem entryAt_inStep (p : Path) : (entryAt p).InStep (entryAt p) := .look fun _ => .ofExcept _

theorem isFileAt_inStep (p : Path) : (isFileAt p).InStep (isFileAt p) := by
  refine .bind (entryAt_inStep p) fun e => ?_
  cases e <;> exact .pure _

theorem receiveSignal_inStep : receiveSignal.InStep receiveSignal :=
  .bind (.log _ _ _) fun _ => .change (fun _ => rfl) fun _ => ⟨rfl, rfl⟩

/-- A tool sees the same calls and the same files. -/
theorem callTool_inStep (c : ToolCall) : (callTool c).InStep (callTool c) := by
  rw [callTool]
  refine .look fun w => ?_
  have same : w.masked.tools.reply w.masked.calls w.masked.files c =
      w.tools.reply w.calls w.files c := by
    rw [World.calls_masked]
    rfl
  rw [same]
  obtain ⟨delay, writes, raisesStop, sendsSignal, ending⟩ := w.tools.reply w.calls w.files c
  refine .bind (.note (.call c)) fun _ =>
    .bind (.change (fun _ => rfl) fun _ => ⟨rfl, rfl⟩) fun _ => ?_
  have raised : (modify World.raiseStop : Activity Unit).InStep (modify World.raiseStop) :=
    .change (fun _ => rfl) fun _ => ⟨rfl, rfl⟩
  have signalled : (receiveSignal >>= fun _ => pure ending : Activity ToolEnding).InStep
      (receiveSignal >>= fun _ => pure ending) := .bind receiveSignal_inStep fun _ => .pure _
  cases raisesStop <;> cases sendsSignal
  · exact .pure _
  · exact signalled
  · exact .bind raised fun _ => .pure _
  · exact .bind raised fun _ => signalled

/-- The client is made with masked keys, and the storage sees the same files. -/
theorem sendFile_inStep (settings : ClientSettings) (u : Upload) :
    (sendFile settings u).InStep (sendFile settings.masked u) := by
  have sent : (get >>= fun w : World => note (.upload u) >>= fun _ =>
      pure (w.storage w.uploads u) : Activity UploadReply).InStep
        (get >>= fun w : World => note (.upload u) >>= fun _ => pure (w.storage w.uploads u)) := by
    refine .look fun w => .bind (.note (.upload u)) fun _ => ?_
    rw [World.uploads_masked]
    exact .pure _
  have send := InStep.bind (.logClient settings u) fun _ => sent
  rw [sendFile, sendFile]
  refine .look fun w => ?_
  rw [World.hasClient_masked]
  split
  · exact send
  · exact .bind (.note (.client settings)) fun _ => send

/-- The chain sees the same number of questions. -/
theorem askHead_inStep : askHead.InStep askHead := by
  rw [askHead]
  refine .look fun w => .bind (.note .head) fun _ => ?_
  rw [World.headReads_masked]
  exact .pure _

end ProofRelay
