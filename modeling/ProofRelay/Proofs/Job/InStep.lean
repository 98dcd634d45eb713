import ProofRelay.CommandLine.Commands
import ProofRelay.Proofs.World.InStep

/-!
# Jobs in step

The settings of a run hold the two keys of the object storage, and the client that sends the files
is made with them.  Settings are *masked* when both keys are replaced by the mask.  A job is in step
with the job that has masked settings, and so are the rounds of jobs: what the settings say apart
from the keys is the same, and nothing but the client is made with the keys.

## Main definitions

* `StorageSettings.masked`, `Settings.masked` : settings with masked keys.

## Main results

* `publish_inStep` : the one place at which the keys are used.
* `runJob_inStep` : jobs are in step.
* `Rounds.run_inStep`, `CommandLine.RunTask.rounds_inStep` : so are the rounds of jobs.
-/

namespace ProofRelay

open Activity

/-! ### Masked settings -/

/-- The settings of the object storage with masked keys. -/
def StorageSettings.masked (s : StorageSettings) : StorageSettings :=
  { s with accessKey := keyMask, secretKey := keyMask }

/-- The settings of a run with masked keys. -/
def Settings.masked (s : Settings) : Settings :=
  { s with storage := s.storage.masked }

/-! ### Tools and files -/

theorem logCall_inStep (logged : Bool) (message : String) :
    (logCall logged message).InStep (logCall logged message) := by
  rw [logCall]
  split
  · exact .log _ _ _
  · exact .pure ()

theorem runTool_inStep (c : ToolCall) : (runTool c).InStep (runTool c) := by
  rw [runTool]
  refine .look fun w => .bind (logCall_inStep _ _) fun _ => .bind (callTool_inStep c) fun e => ?_
  cases e with
  | unknown => exact .fail _
  | notStarted reason => exact .fail _
  | garbled e => exact .fail e
  | exited status out err =>
    refine .bind (logCall_inStep _ _) fun _ => ?_
    split
    · exact .pure _
    · exact .fail _

theorem updateJob_inStep (change : Job → Job) : (updateJob change).InStep (updateJob change) :=
  .change (fun _ => rfl) fun _ => ⟨rfl, rfl⟩

theorem currentJob_inStep (block : Int) : (currentJob block).InStep (currentJob block) :=
  .look fun _ => .pure _

/-- A stage of activities in step. -/
theorem inStage_inStep {α : Type} {block : Int} {stage : JobStage} {a b : Activity α}
    (h : a.InStep b) : (inStage block stage a).InStep (inStage block stage b) := by
  have marked : (markFailed stage).InStep (markFailed stage) := updateJob_inStep _
  rw [inStage, inStage]
  refine .bind (.log _ _ _) fun _ => .onFault h fun f => ?_
  cases f with
  | stage f => exact .bind marked fun _ => .bind (.log _ _ _) fun _ => .fail _
  | setting message => exact .bind marked fun _ => .fail _
  | file f => exact .fail _
  | defect kind message => exact .fail _

/-! ### Stages -/

theorem captureWitness_inStep (s : Settings) (n : Int) :
    (captureWitness s n).InStep (captureWitness s.masked n) := by
  -- The mask changes nothing in a stage that asks for no key; only the publication does.
  change (captureWitness s n).InStep (captureWitness s n)
  rw [captureWitness]
  split
  · exact .fail _
  · exact .fail _
  · refine .bind (.ofExcept _) fun p => .bind (.files _) fun _ => ?_
    refine .bind (.log _ _ _) fun _ => .bind (runTool_inStep _) fun said => ?_
    refine .bind (isFileAt_inStep p) fun there => ?_
    split
    · exact .pure _
    · exact .fail _

theorem witnessChecksum_inStep (s : Settings) (n : Int) :
    (witnessChecksum s n).InStep (witnessChecksum s.masked n) := by
  change (witnessChecksum s n).InStep (witnessChecksum s n)
  rw [witnessChecksum]
  refine .bind (.ofExcept _) fun p => .bind (runTool_inStep _) fun said => ?_
  exact .bind (.ofExcept _) fun _ => .bind (.log _ _ _) fun _ => .pure _

/-- The client is made with the keys of the settings; nothing else depends on them. -/
theorem publish_inStep (s : StorageSettings) (p : Path) (key : String) :
    (s.publish p key).InStep (s.masked.publish p key) := by
  rw [StorageSettings.publish, StorageSettings.publish]
  refine .bind (isFileAt_inStep p) fun there => ?_
  split
  · exact .fail _
  · refine .bind (.log _ _ _) fun _ => .bind (sendFile_inStep s.client _) fun reply => ?_
    cases reply with
    | refused reason => exact .fail _
    | broken f => exact .fail _
    | stored => exact .bind (.ofExcept _) fun url => .bind (.log _ _ _) fun _ => .pure _

theorem takeWitness_inStep (s : Settings) (block : Int) :
    (takeWitness s block).InStep (takeWitness s.masked block) := by
  rw [takeWitness, takeWitness]
  refine .bind (inStage_inStep ?_) fun p => .bind (inStage_inStep ?_) fun _ => inStage_inStep ?_
  · exact .bind (captureWitness_inStep s block) fun p => .bind (updateJob_inStep _) fun _ => .pure _
  · exact .bind (witnessChecksum_inStep s block) fun _ => updateJob_inStep _
  · exact .bind (publish_inStep s.storage p p.name) fun url => updateJob_inStep _

theorem takeMockWitness_inStep (block : Int) :
    (takeMockWitness block).InStep (takeMockWitness block) :=
  .bind (.log _ _ _) fun _ => updateJob_inStep _

theorem makePlan_inStep (s : Settings) (block : Int) :
    (makePlan s block).InStep (makePlan s.masked block) := by
  change (makePlan s block).InStep (makePlan s block)
  rw [makePlan]
  refine inStage_inStep (.bind (currentJob_inStep block) fun j => ?_)
  exact .bind (.ofExcept _) fun p => .bind (updateJob_inStep _) fun _ => .pure _

theorem submitPlan_inStep (s : Settings) (p : Plan Json) :
    (submitPlan s p).InStep (submitPlan s p) := by
  rw [submitPlan]
  refine .bind (.log _ _ _) fun _ => .bind (runTool_inStep _) fun said => ?_
  split
  · exact .fail _
  · exact .bind (.log _ _ _) fun _ => .pure _

theorem submitJob_inStep (s : Settings) (block : Int) (p : Plan Json) :
    (submitJob s block p).InStep (submitJob s.masked block p) := by
  change (submitJob s block p).InStep (submitJob s block p)
  rw [submitJob]
  refine inStage_inStep (.bind (submitPlan_inStep s p) fun transaction => ?_)
  exact .bind (updateJob_inStep _) fun _ => .pure _

/-! ### Waiting -/

theorem pollOnce_inStep (s : Settings) (transaction : String) :
    (pollOnce s transaction).InStep (pollOnce s transaction) := by
  rw [pollOnce, Poller.pollOnce]
  refine .bind (.bind (runTool_inStep _) fun _ => .pure _) fun leaf => ?_
  cases leaf with
  | none => exact .pure _
  | some leaf =>
    exact .bind (.bind (runTool_inStep _) fun _ => .ofExcept _) fun _ => .pure _

theorem wholeSeconds_inStep (x : Float) : (wholeSeconds x).InStep (wholeSeconds x) :=
  .bind (.ofExcept _) fun _ => .pure _

/-- A wait is a row of polls and delays. -/
theorem wait_inStep (s : Settings) (transaction : String) (policy : PollPolicy Float)
    (start : Float) (polls attempt : Nat) (delay : Float) :
    ((verificationWait s transaction).runFrom policy start polls attempt delay).InStep
      ((verificationWait s transaction).runFrom policy start polls attempt delay) := by
  induction polls generalizing attempt delay with
  | zero => exact .pure _
  | succ polls ih =>
    have seconds := wholeSeconds_inStep
    rw [Waiting.runFrom]
    refine .bind (pollOnce_inStep s transaction) fun result => .bind now_inStep fun time => ?_
    dsimp only
    split
    · exact .bind (.bind (seconds _) fun _ => .log _ _ _) fun _ => .pure _
    · split
      · exact .bind (.bind (seconds _) fun _ => .fail _) fun _ => .pure _
      · refine .bind (.bind (seconds _) fun _ => .log _ _ _) fun _ => ?_
        refine .bind (.pause _) fun cut => ?_
        split
        · exact .bind (.fail _) fun _ => .pure _
        · exact ih _ _

theorem waitForVerdict_inStep (s : Settings) (transaction : String) (bound : Nat) :
    (waitForVerdict s transaction bound).InStep (waitForVerdict s transaction bound) := by
  rw [waitForVerdict, Waiting.run]
  refine .bind (.bind now_inStep fun start => wait_inStep _ _ _ _ _ _ _) fun result => ?_
  cases result with
  | none => exact .endless
  | some result => exact .pure _

theorem awaitVerification_inStep (s : Settings) (block : Int) (transaction : String)
    (bound : Nat) :
    (awaitVerification s block transaction bound).InStep
      (awaitVerification s.masked block transaction bound) := by
  change (awaitVerification s block transaction bound).InStep
    (awaitVerification s block transaction bound)
  rw [awaitVerification]
  refine inStage_inStep (.bind (waitForVerdict_inStep s transaction bound) fun result => ?_)
  refine .bind (updateJob_inStep _) fun _ => ?_
  split
  · exact .bind (updateJob_inStep _) fun _ => .fail _
  · exact .pure _

/-! ### The whole job -/

theorem writePayload_inStep (p : Path) (payload : String) :
    (writePayload p payload).InStep (writePayload p payload) :=
  .bind (.files _) fun _ => .bind (.files _) fun _ => .files _

theorem persistResult_inStep (s : Settings) (block : Int) (payload : String) :
    (persistResult s block payload).InStep (persistResult s.masked block payload) := by
  change (persistResult s block payload).InStep (persistResult s block payload)
  rw [persistResult]
  refine inStage_inStep (.bind (.ofExcept _) fun p => .bind ?_ fun _ =>
    .bind (updateJob_inStep _) fun _ => .pure _)
  refine .onFault (writePayload_inStep p payload) fun f => ?_
  cases f <;> exact .fail _

theorem startJob_inStep (block : Int) : (startJob block).InStep (startJob block) :=
  .bind (.change (fun _ => rfl) fun _ => ⟨rfl, rfl⟩) fun _ => .log _ _ _

theorem finishJob_inStep (block : Int) (p : Path) :
    (finishJob block p).InStep (finishJob block p) := by
  rw [finishJob]
  refine .bind (updateJob_inStep _) fun _ => .bind (currentJob_inStep block) fun j => ?_
  exact .bind now_inStep fun time => .bind (wholeSeconds_inStep _) fun _ => .log _ _ _

/-- A job is in step with the one that has masked settings. -/
theorem runJob_inStep (s : Settings) (mock : Bool) (bound : Nat) (block : Int) :
    (runJob s mock bound block).InStep (runJob s.masked mock bound block) := by
  have verified := fun _ : Unit => (makePlan_inStep s block).bind fun p =>
    (submitJob_inStep s block p).bind fun transaction =>
      (awaitVerification_inStep s block transaction bound).bind fun result =>
        (persistResult_inStep s block result.payload).bind (finishJob_inStep block)
  have mocked := (startJob_inStep block).bind fun _ =>
    (takeMockWitness_inStep block).bind verified
  have taken := (startJob_inStep block).bind fun _ => (takeWitness_inStep s block).bind verified
  rw [runJob, runJob]
  cases mock with
  | true =>
    split
    · exact .bind (.fail _) fun _ => mocked
    · exact mocked
  | false =>
    split
    · exact .bind (.fail _) fun _ => taken
    · exact taken

/-! ### Rounds -/

namespace Rounds

variable (r : Rounds) {job job' : Int → Activity Unit}

/-- One round of jobs in step. -/
theorem step_inStep (h : ∀ n, (job n).InStep (job' n)) (t : Tally) (n : Int) :
    (r.step job t n).InStep (r.step job' t n) := by
  rw [step, step]
  refine .tryCatch (.bind (h n) fun _ => .pure _) fun i => ?_
  split
  · split
    · split
      · exact .throw _
      · exact .bind (.log _ _ _) fun _ => .pure _
    · exact .throw _
  · exact .throw _

/-- Rounds of jobs in step, from a block on. -/
theorem runFrom_inStep (h : ∀ n, (job n).InStep (job' n)) (rounds : Nat) (t : Tally) (n : Int) :
    (r.runFrom job rounds t n).InStep (r.runFrom job' rounds t n) := by
  induction rounds generalizing t n with
  | zero => exact .endless
  | succ rounds ih =>
    rw [runFrom, runFrom]
    refine .bind stopRequested_inStep fun due => ?_
    split
    · exact .bind (.log _ _ _) fun _ => .pure _
    · split
      · exact .pure _
      · refine .bind (step_inStep r h t n) fun t => ?_
        split
        · exact ih t (n + 1)
        · exact .pure _

theorem first_inStep : r.first.InStep r.first := by
  have head : ∀ c : ChainClient, c.head.InStep c.head := fun c =>
    .bind askHead_inStep fun reply => .bind (.ofExcept _) fun n =>
      .bind (.log _ _ _) fun _ => .pure _
  rw [first]
  split
  · split
    · exact .fail _
    · exact head _
  · split
    · exact .fail _
    · exact .pure _

/-- Rounds of jobs in step are in step. -/
theorem run_inStep (h : ∀ n, (job n).InStep (job' n)) (bound : Nat) :
    (r.run job bound).InStep (r.run job' bound) :=
  .bind (first_inStep r) (runFrom_inStep r h bound .empty)

end Rounds

theorem ChainClient.connect_inStep (url : Json) (timeout : Float) :
    (connect url timeout).InStep (connect url timeout) := by
  rw [connect]
  split
  · exact .fail _
  · exact .bind (.note (.provider _ _)) fun _ => .pure _

/-- The rounds of a command are in step with those that have masked settings. -/
theorem CommandLine.RunTask.rounds_inStep (t : RunTask) (s : Settings) (bound : Nat) :
    (t.rounds s bound).InStep (t.rounds s.masked bound) := by
  have jobs := runJob_inStep s t.mock bound
  rw [rounds, rounds]
  split
  · refine .bind (.map (ChainClient.connect_inStep _ _)) fun chain => ?_
    exact Rounds.run_inStep _ jobs bound
  · exact .bind (.pure _) fun chain => Rounds.run_inStep _ jobs bound

end ProofRelay
