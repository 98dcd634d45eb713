import ProofRelay.Proofs.Job.Polls

/-!
# The record of a job

The job in hand is the record of what its stages found.  An activity *keeps* a property of records
when the job in hand has it afterwards if it had it before, whether or not the activity succeeds.
Questions, files and waits leave the record as it is, so that they keep every property; a stage
keeps what its own entries and the mark of a failure keep.

A record is *open* until its block counts as verified.  All stages keep it open: the end of the job
is the only thing that closes it.

## Main definitions

* `Activity.Keeps` : activities that keep a property of records.
* `Job.IsOpen` : the record of a block that does not count as verified.

## Main results

* `inStage_keeps` : what a stage keeps.
* `takeMockWitness_keepsOpen`, `takeWitness_keepsOpen`, `makePlan_keepsOpen`, `submitJob_keepsOpen`,
  `awaitVerification_keepsOpen`, `persistResult_keepsOpen` : the stages keep a record open.
-/

namespace ProofRelay

open Activity

namespace Activity

variable {α β : Type} {P : Job → Prop} {a : Activity α} {f : α → Activity β}

/-- Whether an activity keeps a property of the job in hand. -/
def Keeps (P : Job → Prop) (a : Activity α) : Prop :=
  ∀ w j, w.job = some j → P j → ∃ j', (a.runIn w).2.job = some j' ∧ P j'

/-- An activity that leaves the record keeps every property. -/
theorem Keeps.of_leaves (h : ∀ w, (a.runIn w).2.job = w.job) : a.Keeps P :=
  fun w j job kept => ⟨j, (h w).trans job, kept⟩

theorem Keeps.of_does (h : ∀ w, a.Does w fun _ _ w' => w'.job = w.job) : a.Keeps P :=
  .of_leaves fun w => (h w).choose_spec.2

theorem Keeps.of_quiet (h : a.Quiet) : a.Keeps P :=
  .of_leaves fun w => (h w).2

theorem Keeps.pure (x : α) : Keeps P (Pure.pure x : Activity α) := .of_quiet (.pure x)

theorem Keeps.fail (f : Fault) : Keeps P (fail f : Activity α) := .of_quiet (.fail f)

theorem Keeps.ofExcept (x : Except Fault α) : Keeps P (ofExcept x) := .of_quiet (.ofExcept x)

theorem Keeps.get : Keeps P (get : Activity World) := .of_leaves fun _ => rfl

theorem Keeps.log (level : Level) (source message : String) : Keeps P (log level source message) :=
  .of_quiet (quiet_log level source message)

theorem Keeps.bind (h : a.Keeps P) (hf : ∀ x, (f x).Keeps P) : (a >>= f).Keeps P := by
  intro w j job kept
  obtain ⟨j', job', kept'⟩ := h w j job kept
  rw [runIn_bind]
  cases ran : a.runIn w with
  | mk r w₁ =>
    rw [ran] at job'
    cases r with
    | error i => exact ⟨j', job', kept'⟩
    | ok x => exact hf x w₁ j' job' kept'

theorem Keeps.onFault {handle : Fault → Activity α} (h : a.Keeps P)
    (handled : ∀ f, (handle f).Keeps P) : (onFault a handle).Keeps P := by
  intro w j job kept
  obtain ⟨j', job', kept'⟩ := h w j job kept
  rw [runIn_onFault]
  rcases ran : a.runIn w with ⟨(f | _) | x, w₁⟩
  · rw [ran] at job'
    exact handled f w₁ j' job' kept'
  · rw [ran] at job'
    exact ⟨j', job', kept'⟩
  · rw [ran] at job'
    exact ⟨j', job', kept'⟩

/-- An entry in the record. -/
theorem Keeps.update {change : Job → Job} (h : ∀ j, P j → P (change j)) :
    (updateJob change).Keeps P := by
  intro w j job kept
  refine ⟨change j, ?_, h j kept⟩
  change w.job.map change = _
  rw [job, Option.map_some]

/-- What an activity does, together with what it keeps. -/
theorem Does.with_record {w : World} {j : Job} {Q : Post α} (h : a.Does w Q) (keeps : a.Keeps P)
    (job : w.job = some j) (kept : P j) :
    a.Does w fun ds r w' => Q ds r w' ∧ ∃ j', w'.job = some j' ∧ P j' := by
  obtain ⟨ds, hs, did⟩ := h
  exact ⟨ds, hs, did, keeps w j job kept⟩

end Activity

/-! ### Questions, files and waits -/

section Leaves

variable {P : Job → Prop}

theorem runTool_keeps (c : ToolCall) : (runTool c).Keeps P :=
  .of_does fun w => (runTool_does c w).mono fun _ _ _ ⟨_, _, _, job⟩ => job

theorem changeFiles_keeps (change : FileTree → FileTree × Option Fault) :
    (changeFiles change).Keeps P :=
  .of_leaves fun w => by rw [runIn_changeFiles]

theorem isFileAt_keeps (p : Path) : (isFileAt p).Keeps P := by
  rw [isFileAt, entryAt]
  refine .bind (.bind .get fun w => .ofExcept _) fun e => ?_
  cases e <;> exact .pure _

theorem captureWitness_keeps (s : Settings) (n : Int) : (captureWitness s n).Keeps P := by
  rw [captureWitness]
  split
  · exact .fail _
  · exact .fail _
  · refine .bind (.ofExcept _) fun p => .bind (changeFiles_keeps _) fun _ => ?_
    refine .bind (.log _ _ _) fun _ => .bind (runTool_keeps _) fun said => ?_
    refine .bind (isFileAt_keeps p) fun there => ?_
    split
    · exact .pure _
    · exact .fail _

theorem witnessChecksum_keeps (s : Settings) (n : Int) : (witnessChecksum s n).Keeps P := by
  rw [witnessChecksum]
  refine .bind (.ofExcept _) fun p => .bind (runTool_keeps _) fun said => ?_
  exact .bind (.ofExcept _) fun checksum => .bind (.log _ _ _) fun _ => .pure _

theorem sendFile_keeps (c : ClientSettings) (u : Upload) : (sendFile c u).Keeps P :=
  .of_does fun w => (sendFile_does c u w).mono fun _ _ _ ⟨_, _, _, job⟩ => job

theorem publish_keeps (s : StorageSettings) (p : Path) (key : String) :
    (s.publish p key).Keeps P := by
  rw [StorageSettings.publish]
  refine .bind (isFileAt_keeps p) fun there => ?_
  split
  · exact .fail _
  · refine .bind (.log _ _ _) fun _ => .bind (sendFile_keeps _ _) fun reply => ?_
    cases reply with
    | refused reason => exact .fail _
    | broken f => exact .fail _
    | stored => exact .bind (.ofExcept _) fun url => .bind (.log _ _ _) fun _ => .pure _

theorem submitPlan_keeps (s : Settings) (p : Plan Json) : (submitPlan s p).Keeps P := by
  rw [submitPlan]
  refine .bind (.log _ _ _) fun _ => .bind (runTool_keeps _) fun said => ?_
  split
  · exact .fail _
  · exact .bind (.log _ _ _) fun _ => .pure _

theorem waitForVerdict_keeps (s : Settings) (transaction : String) (bound : Nat) :
    (waitForVerdict s transaction bound).Keeps P :=
  .of_does fun w => (waitForVerdict_does s transaction bound w).mono fun _ _ _ h => h.2

theorem writePayload_keeps (p : Path) (payload : String) : (writePayload p payload).Keeps P := by
  rw [writePayload]
  exact .bind (changeFiles_keeps _) fun _ =>
    .bind (changeFiles_keeps _) fun _ => changeFiles_keeps _

end Leaves

/-! ### Stages -/

/-- A stage keeps what its activity keeps, if the mark of a failure keeps it too. -/
theorem inStage_keeps {α : Type} {P : Job → Prop} {block : Int} {stage : JobStage} {a : Activity α}
    (h : a.Keeps P) (marked : (markFailed stage).Keeps P) : (inStage block stage a).Keeps P := by
  rw [inStage]
  refine .bind (.log _ _ _) fun _ => h.onFault fun f => ?_
  cases f with
  | stage f => exact .bind marked fun _ => .bind (.log _ _ _) fun _ => .fail _
  | setting message => exact .bind marked fun _ => .fail _
  | file f => exact .fail _
  | defect kind message => exact .fail _

/-- The record of a block that does not count as verified. -/
structure Job.IsOpen (block : Int) (j : Job) : Prop where
  /-- It is the record of the block. -/
  block_eq : j.block = block
  /-- The block does not count as verified. -/
  unverified : j.status ≠ .verified

section Open

variable {α : Type} {n : Int}

/-- An entry with another status. -/
theorem updateJob_keepsOpen {change : Job → Job} (block : ∀ j, (change j).block = j.block)
    (status : ∀ j, j.status ≠ .verified → (change j).status ≠ .verified) :
    (updateJob change).Keeps (Job.IsOpen n) :=
  .update fun j kept => ⟨(block j).trans kept.block_eq, status j kept.unverified⟩

theorem markFailed_keepsOpen (stage : JobStage) : (markFailed stage).Keeps (Job.IsOpen n) := by
  refine updateJob_keepsOpen (fun _ => rfl) fun j _ => ?_
  dsimp only
  split <;> decide

theorem inStage_keepsOpen {block : Int} {stage : JobStage} {a : Activity α}
    (h : a.Keeps (Job.IsOpen n)) : (inStage block stage a).Keeps (Job.IsOpen n) :=
  inStage_keeps h (markFailed_keepsOpen stage)

theorem takeMockWitness_keepsOpen (block : Int) : (takeMockWitness block).Keeps (Job.IsOpen n) := by
  rw [takeMockWitness]
  exact .bind (.log _ _ _) fun _ => updateJob_keepsOpen (fun _ => rfl) fun _ _ => nofun

theorem takeWitness_keepsOpen (s : Settings) (block : Int) :
    (takeWitness s block).Keeps (Job.IsOpen n) := by
  rw [takeWitness]
  refine .bind (inStage_keepsOpen ?_) fun p => .bind (inStage_keepsOpen ?_) fun _ =>
    inStage_keepsOpen ?_
  · refine .bind (captureWitness_keeps s block) fun p => .bind ?_ fun _ => .pure _
    exact updateJob_keepsOpen (fun _ => rfl) fun _ _ => nofun
  · refine .bind (witnessChecksum_keeps s block) fun checksum => ?_
    exact updateJob_keepsOpen (fun _ => rfl) fun _ _ => nofun
  · refine .bind (publish_keeps _ _ _) fun url => ?_
    exact updateJob_keepsOpen (fun _ => rfl) fun _ _ => nofun

theorem makePlan_keepsOpen (s : Settings) (block : Int) :
    (makePlan s block).Keeps (Job.IsOpen n) := by
  rw [makePlan]
  refine inStage_keepsOpen (.bind (.bind .get fun w => .pure _) fun j => ?_)
  refine .bind (.ofExcept _) fun p => .bind ?_ fun _ => .pure _
  exact updateJob_keepsOpen (fun _ => rfl) fun _ _ => nofun

theorem submitJob_keepsOpen (s : Settings) (block : Int) (p : Plan Json) :
    (submitJob s block p).Keeps (Job.IsOpen n) := by
  rw [submitJob]
  refine inStage_keepsOpen (.bind (submitPlan_keeps s p) fun transaction => ?_)
  exact .bind (updateJob_keepsOpen (fun _ => rfl) fun _ _ => nofun) fun _ => .pure _

theorem awaitVerification_keepsOpen (s : Settings) (block : Int) (transaction : String)
    (bound : Nat) : (awaitVerification s block transaction bound).Keeps (Job.IsOpen n) := by
  rw [awaitVerification]
  refine inStage_keepsOpen (.bind (waitForVerdict_keeps s transaction bound) fun result => ?_)
  refine .bind (updateJob_keepsOpen (fun _ => rfl) fun _ unverified => unverified) fun _ => ?_
  split
  · refine .bind ?_ fun _ => .fail _
    exact updateJob_keepsOpen (fun _ => rfl) fun _ _ => nofun
  · exact .pure _

theorem persistResult_keepsOpen (s : Settings) (block : Int) (payload : String) :
    (persistResult s block payload).Keeps (Job.IsOpen n) := by
  rw [persistResult]
  refine inStage_keepsOpen
    (.bind (.ofExcept _) fun p => .bind ?_ fun _ => .bind ?_ fun _ => .pure _)
  · refine (writePayload_keeps p payload).onFault fun f => ?_
    cases f <;> exact .fail _
  · exact updateJob_keepsOpen (fun _ => rfl) fun _ unverified => unverified

end Open

end ProofRelay
